import AgentGraph.Proofs.Dict.Lookup
import AgentGraph.Proofs.Program.ClassStatements
import AgentGraph.Proofs.Program.Linearisation

/-!
What class statements do one after another: each one looks up its bases, merges the orders of
these and binds its name to the order of a new class. No statement fails where each extends
either one class of the framework or classes that no earlier statement extends.
-/

namespace AgentGraph

open Linearisation

/-- A class of the framework, or one that a statement of the program makes. -/
inductive ClassRef
  | framework (name : String)
  | declared (name : String)
deriving DecidableEq

namespace ClassRef

def isDeclared : ClassRef → Bool
  | framework _ => false
  | declared _ => true

theorem framework_injective : Function.Injective framework := fun _ _ same => by
  injection same

theorem declared_injective : Function.Injective declared := fun _ _ same => by
  injection same

end ClassRef

/-- The two classes of the framework that agents' classes extend, each with the classes above it
in the order in which they are searched. -/
structure Framework where
  agent : List String
  reasoner : List String
  agent_head : agent.head? = some "Agent"
  reasoner_head : reasoner.head? = some "BDIAgent"
  reasoner_nodup : reasoner.Nodup
  agent_sublist : agent.Sublist reasoner

/-- The names that are bound, each to a class and the classes above it in the order in which they
are searched. -/
abbrev Scope := Dict (List ClassRef)

def Scope.order (scope : Scope) (name : String) : List ClassRef := scope.findD name []

namespace Framework

def classes (framework : Framework) : List (List ClassRef) :=
  [framework.agent.map .framework, framework.reasoner.map .framework]

def scope (framework : Framework) : Scope :=
  (Dict.empty.insert "Agent" (framework.agent.map .framework)).insert "BDIAgent"
    (framework.reasoner.map .framework)

end Framework

namespace ClassStatement

/-- The scope after a class statement. It fails on bases that are not bound, that are the same
class twice or that have no common order, and on a name that is bound already. -/
def define (scope : Scope) (statement : ClassStatement) : Option Scope :=
  let orders := statement.bases.map scope.order
  let bases := orders.filterMap List.head?
  if statement.bases.all scope.contains && decide bases.Nodup &&
      !scope.contains statement.name then
    (linearise (orders ++ [bases])).map fun order =>
      scope.insert statement.name (.declared statement.name :: order)
  else none

/-- Whether the class is one of those made that none of them extends. -/
def IsLeaf (earlier : List ClassStatement) (name : String) : Prop :=
  name ∈ earlier.map ClassStatement.name ∧ ∀ other ∈ earlier, name ∉ other.bases

/-- Whether a new class extends one of the framework, or classes that nothing extends yet. -/
structure Fits (earlier : List ClassStatement) (statement : ClassStatement) : Prop where
  name_ne : statement.name ≠ "Agent" ∧ statement.name ≠ "BDIAgent"
  name_new : statement.name ∉ earlier.map name
  bases_nodup : statement.bases.Nodup
  bases : statement.bases = ["Agent"] ∨ statement.bases = ["BDIAgent"] ∨
    statement.bases ≠ [] ∧ ∀ base ∈ statement.bases, IsLeaf earlier base

end ClassStatement

open ClassStatement

theorem Dict.contains_insert {α : Type} {dict : Dict α} {key asked : String} {value : α} :
    (dict.insert key value).contains asked = true ↔ asked = key ∨ dict.contains asked = true := by
  unfold contains
  by_cases same : asked = key
  · simp [same]
  · rw [find?_insert_of_ne _ _ same, or_iff_right same]

namespace Framework

variable {framework : Framework} {earlier : List ClassStatement} {scope : Scope}
  {statement : ClassStatement} {names : List String} {name : String}
  {order above : List ClassRef}

/-- The order of a class of the program when the program had made those with `names`. -/
structure IsOrder (framework : Framework) (names : List String) (name : String)
    (order : List ClassRef) : Prop where
  head : order = .declared name :: order.tail
  nodup : order.Nodup
  fromFramework : (order.filter fun member => !member.isDeclared) ∈ framework.classes
  declared : ∀ other, .declared other ∈ order → other ∈ names

/-- Whether a scope is what statements can have made of the framework's. No class of the program
is above, or is, two leaves. -/
structure Binds (framework : Framework) (earlier : List ClassStatement) (scope : Scope) :
    Prop where
  agent : scope.order "Agent" = framework.agent.map .framework
  reasoner : scope.order "BDIAgent" = framework.reasoner.map .framework
  known : ∀ asked, scope.contains asked = true ↔
    asked = "Agent" ∨ asked = "BDIAgent" ∨ asked ∈ earlier.map ClassStatement.name
  order : ∀ name ∈ earlier.map ClassStatement.name,
    framework.IsOrder (earlier.map ClassStatement.name) name (scope.order name)
  apart : ∀ first second, IsLeaf earlier first → IsLeaf earlier second → first ≠ second →
    ∀ other, .declared other ∈ scope.order first → .declared other ∉ scope.order second

structure IsAbove (framework : Framework) (earlier : List ClassStatement) (scope : Scope)
    (statement : ClassStatement) (above : List ClassRef) : Prop where
  bases_known : ∀ base ∈ statement.bases, scope.contains base = true
  bases_nodup : ((statement.bases.map scope.order).filterMap List.head?).Nodup
  linearised : linearise (statement.bases.map scope.order ++
    [(statement.bases.map scope.order).filterMap List.head?]) = some above
  fromFramework : (above.filter fun member => !member.isDeclared) ∈ framework.classes
  declared : ∀ other, .declared other ∈ above →
    ∃ base ∈ statement.bases, IsLeaf earlier base ∧ .declared other ∈ scope.order base

theorem sublist_of_mem_classes (isClass : order ∈ framework.classes) :
    order.Sublist (framework.reasoner.map .framework) := by
  simp only [classes, List.mem_cons, List.not_mem_nil, or_false] at isClass
  rcases isClass with rfl | rfl
  · exact framework.agent_sublist.map _
  · exact .refl _

theorem not_declared_of_mem_classes (isClass : order ∈ framework.classes) (other : String) :
    .declared other ∉ order := by
  intro inside
  obtain ⟨_, _, same⟩ := List.mem_map.mp ((sublist_of_mem_classes isClass).subset inside)
  contradiction

theorem filter_of_mem_classes (isClass : order ∈ framework.classes) :
    (order.filter fun member => !member.isDeclared) = order := by
  refine List.filter_eq_self.mpr fun member inside => ?_
  cases member with
  | framework => rfl
  | declared other => exact absurd inside (not_declared_of_mem_classes isClass other)

theorem binds_scope (framework : Framework) : framework.Binds [] framework.scope where
  agent := by
    rw [Scope.order, scope, Dict.findD_insert_of_ne _ _ _ (by decide), Dict.findD_insert_self]
  reasoner := by rw [Scope.order, scope, Dict.findD_insert_self]
  known asked := by
    rw [scope, Dict.contains_insert, Dict.contains_insert]
    simp only [Dict.contains, Dict.find?_empty, Option.isSome_none, Bool.false_eq_true, or_false,
      List.map_nil, List.not_mem_nil]
    exact or_comm
  order _ inside := absurd inside List.not_mem_nil
  apart _ _ isLeaf := absurd isLeaf.1 List.not_mem_nil

theorem nodup_of_mem_classes (isClass : order ∈ framework.classes) : order.Nodup :=
  (framework.reasoner_nodup.map ClassRef.framework_injective).sublist
    (sublist_of_mem_classes isClass)

theorem exists_isAbove_of_framework {base : String} (alone : statement.bases = [base])
    (known : scope.contains base = true) (isClass : scope.order base ∈ framework.classes)
    (head : (scope.order base).head? = some (.framework base)) :
    ∃ above, framework.IsAbove earlier scope statement above := by
  have orders : statement.bases.map scope.order = [scope.order base] := by
    rw [alone, List.map_singleton]
  have bases : (statement.bases.map scope.order).filterMap List.head? = [.framework base] := by
    simp [orders, head]
  have isHead : ClassRef.framework base ∈ scope.order base := List.mem_of_mem_head? head
  have kept : ∀ order ∈ [scope.order base] ++ [[.framework base]],
      order.Sublist (scope.order base) := by
    simpa using isHead
  obtain ⟨above, made⟩ := Option.isSome_iff_exists.mp
    ((linearise_isSome_iff _).mpr ⟨_, nodup_of_mem_classes isClass, kept⟩)
  have merges := merges_of_linearise made
  refine ⟨above, ?_, ?_, ?_, ?_, ?_⟩
  · simpa [alone] using known
  · rw [bases]
    exact List.nodup_singleton _
  · rw [bases, orders]
    exact made
  · rw [merges.filter_eq (List.mem_append_left _ (List.mem_singleton_self _))
        fun other isOther member inside _ => (kept other isOther).subset inside,
      filter_of_mem_classes isClass]
    exact isClass
  · intro other inside
    obtain ⟨order, isOrder, held⟩ := List.mem_flatten.mp (merges.subset inside)
    exact absurd ((kept order isOrder).subset held) (not_declared_of_mem_classes isClass other)

section Leaves

variable (binds : framework.Binds earlier scope)
  (leaves : ∀ base ∈ statement.bases, IsLeaf earlier base)

include binds leaves

theorem heads_of_leaves :
    (statement.bases.map scope.order).filterMap List.head? = statement.bases.map .declared := by
  rw [List.filterMap_map, ← List.filterMap_eq_map]
  refine List.filterMap_congr fun base isBase => ?_
  rw [Function.comp_apply, (binds.order base (leaves base isBase).1).head]
  rfl

theorem nodup_declared (nodup : statement.bases.Nodup) :
    ((statement.bases.map fun base => (scope.order base).tail).flatMap
      (List.filter ClassRef.isDeclared)).Nodup := by
  rw [List.flatMap_map, List.nodup_flatMap]
  constructor
  · intro base isBase
    exact ((binds.order base (leaves base isBase).1).nodup.sublist
      (List.tail_sublist _)).filter _
  · refine nodup.pairwise_of_forall_ne fun first isFirst second isSecond differ => ?_
    intro member inFirst inSecond
    obtain ⟨aboveFirst, isDeclared⟩ := List.mem_filter.mp inFirst
    cases member with
    | framework => contradiction
    | declared other =>
        exact binds.apart first second (leaves first isFirst) (leaves second isSecond) differ other
          (List.mem_of_mem_tail aboveFirst)
          (List.mem_of_mem_tail (List.mem_filter.mp inSecond).1)

/-- An order that keeps to those of the bases and to the order of the bases themselves. -/
theorem exists_common (nodup : statement.bases.Nodup) :
    ∃ common : List ClassRef, common.Nodup ∧
      ∀ order ∈ statement.bases.map scope.order ++ [statement.bases.map .declared],
        order.Sublist common := by
  let tails := statement.bases.map fun base => (scope.order base).tail
  let shared := framework.reasoner.map ClassRef.framework
  have isClass : shared ∈ framework.classes := List.mem_cons_of_mem _ (List.mem_singleton_self _)
  refine ⟨statement.bases.map .declared ++ interleaved ClassRef.isDeclared shared tails, ?_, ?_⟩
  · -- A base comes later only above another base, and leaves are above no leaf.
    refine List.nodup_append'.mpr ⟨nodup.map ClassRef.declared_injective, ?_, ?_⟩
    · refine nodup_interleaved tails (nodup_of_mem_classes isClass) ?_
        (nodup_declared binds leaves nodup)
      intro member isShared
      obtain ⟨name, _, rfl⟩ := List.mem_map.mp isShared
      rfl
    · intro member isHead inside
      obtain ⟨base, isBase, rfl⟩ := List.mem_map.mp isHead
      have own := binds.order base (leaves base isBase).1
      rw [(interleaved_perm shared tails).mem_iff, List.mem_append] at inside
      have isShared := inside.resolve_left fun above => by
        obtain ⟨_, isTail, held⟩ := List.mem_flatMap.mp above
        obtain ⟨other, isOther, rfl⟩ := List.mem_map.mp isTail
        have aboveOther := (List.mem_filter.mp held).1
        by_cases same : base = other
        · subst same
          have nodup := own.nodup
          rw [own.head] at nodup
          exact (List.nodup_cons.mp nodup).1 aboveOther
        · refine binds.apart base other (leaves base isBase) (leaves other isOther) same base ?_
            (List.mem_of_mem_tail aboveOther)
          rw [own.head]
          exact List.mem_cons_self
      exact not_declared_of_mem_classes isClass base isShared
  · intro order isOrder
    rcases List.mem_append.mp isOrder with isLine | isHeads
    · obtain ⟨base, isBase, rfl⟩ := List.mem_map.mp isLine
      have own := binds.order base (leaves base isBase).1
      have framed : ((scope.order base).tail.filter fun member => !member.isDeclared).Sublist
          shared := by
        refine List.Sublist.trans ?_ (sublist_of_mem_classes own.fromFramework)
        exact (List.tail_sublist _).filter _
      have isTail : (scope.order base).tail ∈ tails := List.mem_map.mpr ⟨base, isBase, rfl⟩
      have head : [ClassRef.declared base].Sublist (statement.bases.map .declared) :=
        List.singleton_sublist.mpr (List.mem_map_of_mem isBase)
      rw [own.head]
      exact head.append (sublist_interleaved isTail framed)
    · rw [List.mem_singleton.mp isHeads]
      exact List.sublist_append_left _ _

/-- One of the bases has all classes of the framework above it that are above any. -/
theorem exists_widest (some_bases : statement.bases ≠ []) :
    ∃ base ∈ statement.bases, ∀ other ∈ statement.bases, ∀ member ∈ scope.order other,
      (!member.isDeclared) = true → member ∈ scope.order base := by
  have part : ∀ base ∈ statement.bases,
      ((scope.order base).filter fun member => !member.isDeclared) ∈ framework.classes :=
    fun base isBase => (binds.order base (leaves base isBase).1).fromFramework
  by_cases reasons : ∃ base ∈ statement.bases,
      ((scope.order base).filter fun member => !member.isDeclared) =
        framework.reasoner.map .framework
  · obtain ⟨base, isBase, all⟩ := reasons
    refine ⟨base, isBase, fun other isOther member inside framed => ?_⟩
    have held := (sublist_of_mem_classes (part other isOther)).subset
      (List.mem_filter.mpr ⟨inside, framed⟩)
    rw [← all] at held
    exact (List.mem_filter.mp held).1
  · have plain : ∀ base ∈ statement.bases,
        ((scope.order base).filter fun member => !member.isDeclared) =
          framework.agent.map .framework := by
      intro base isBase
      have isClass := part base isBase
      simp only [classes, List.mem_cons, List.not_mem_nil, or_false] at isClass
      exact isClass.resolve_right fun same => reasons ⟨base, isBase, same⟩
    obtain ⟨base, isBase⟩ := List.exists_mem_of_ne_nil _ some_bases
    refine ⟨base, isBase, fun other isOther member inside framed => ?_⟩
    have held : member ∈ (scope.order other).filter fun member => !member.isDeclared :=
      List.mem_filter.mpr ⟨inside, framed⟩
    rw [plain other isOther, ← plain base isBase] at held
    exact (List.mem_filter.mp held).1

theorem exists_isAbove_of_leaves (some_bases : statement.bases ≠ [])
    (nodup : statement.bases.Nodup) :
    ∃ above, framework.IsAbove earlier scope statement above := by
  have heads := heads_of_leaves binds leaves
  obtain ⟨above, made⟩ := Option.isSome_iff_exists.mp
    ((linearise_isSome_iff _).mpr (exists_common binds leaves nodup))
  have merges := merges_of_linearise made
  -- The bases themselves stand in their own orders, so the last order adds no class.
  have inOrder : ∀ order ∈ statement.bases.map scope.order ++ [statement.bases.map .declared],
      ∀ member ∈ order, ∃ base ∈ statement.bases, member ∈ scope.order base := by
    intro order isOrder member inside
    rcases List.mem_append.mp isOrder with isLine | isHeads
    · obtain ⟨base, isBase, rfl⟩ := List.mem_map.mp isLine
      exact ⟨base, isBase, inside⟩
    · rw [List.mem_singleton.mp isHeads] at inside
      obtain ⟨base, isBase, rfl⟩ := List.mem_map.mp inside
      refine ⟨base, isBase, ?_⟩
      rw [(binds.order base (leaves base isBase).1).head]
      exact List.mem_cons_self
  refine ⟨above, ?_, ?_, ?_, ?_, ?_⟩
  · intro base isBase
    exact (binds.known base).mpr (.inr (.inr (leaves base isBase).1))
  · rw [heads]
    exact nodup.map ClassRef.declared_injective
  · rw [heads]
    exact made
  · obtain ⟨widest, isBase, all⟩ := exists_widest binds leaves some_bases
    rw [merges.filter_eq (List.mem_append_left _ (List.mem_map_of_mem isBase))]
    · exact (binds.order widest (leaves widest isBase).1).fromFramework
    · intro order isOrder member inside framed
      obtain ⟨base, isBase, held⟩ := inOrder order isOrder member inside
      exact all base isBase member held framed
  · intro other inside
    obtain ⟨order, isOrder, held⟩ := List.mem_flatten.mp (merges.subset inside)
    obtain ⟨base, isBase, held⟩ := inOrder order isOrder _ held
    exact ⟨base, isBase, leaves base isBase, held⟩

end Leaves

theorem exists_isAbove (binds : framework.Binds earlier scope) (fits : Fits earlier statement) :
    ∃ above, framework.IsAbove earlier scope statement above := by
  rcases fits.bases with plain | reasoning | ⟨some_bases, leaves⟩
  · refine exists_isAbove_of_framework plain ((binds.known _).mpr (.inl rfl)) ?_ ?_
    · rw [binds.agent]
      exact List.mem_cons_self
    · rw [binds.agent, List.head?_map, framework.agent_head]
      rfl
  · refine exists_isAbove_of_framework reasoning ((binds.known _).mpr (.inr (.inl rfl))) ?_ ?_
    · rw [binds.reasoner]
      exact List.mem_cons_of_mem _ (List.mem_singleton_self _)
    · rw [binds.reasoner, List.head?_map, framework.reasoner_head]
      rfl
  · exact exists_isAbove_of_leaves binds leaves some_bases fits.bases_nodup

theorem IsOrder.mono {more : List String} (isOrder : framework.IsOrder names name order)
    (subset : names ⊆ more) : framework.IsOrder more name order :=
  { isOrder with declared := fun other inside => subset (isOrder.declared other inside) }

theorem isOrder_of_isAbove (binds : framework.Binds earlier scope) (fits : Fits earlier statement)
    (isAbove : framework.IsAbove earlier scope statement above) :
    framework.IsOrder ((earlier ++ [statement]).map ClassStatement.name) statement.name
      (.declared statement.name :: above) := by
  have old : ∀ other, .declared other ∈ above → other ∈ earlier.map ClassStatement.name := by
    intro other inside
    obtain ⟨base, _, isLeaf, held⟩ := isAbove.declared other inside
    exact (binds.order base isLeaf.1).declared other held
  refine ⟨rfl, List.nodup_cons.mpr ⟨fun again => fits.name_new (old _ again), ?_⟩, ?_, ?_⟩
  · exact (merges_of_linearise isAbove.linearised).nodup
  · rw [List.filter_cons_of_neg (by simp [ClassRef.isDeclared])]
    exact isAbove.fromFramework
  · intro other inside
    rw [List.map_append, List.mem_append]
    rcases List.mem_cons.mp inside with same | held
    · injection same with same
      exact .inr (List.mem_singleton.mpr same)
    · exact .inl (old other held)

theorem isLeaf_concat (isLeaf : IsLeaf (earlier ++ [statement]) name) :
    name = statement.name ∨ IsLeaf earlier name ∧ name ∉ statement.bases := by
  obtain ⟨inside, unextended⟩ := isLeaf
  simp only [List.map_append, List.map_singleton, List.mem_append, List.mem_singleton] at inside
  rcases inside with old | new
  · exact .inr ⟨⟨old, fun other held => unextended other (List.mem_append_left _ held)⟩,
      unextended statement (List.mem_append_right _ (List.mem_singleton_self _))⟩
  · exact .inl new

/-- The leaves that a statement leaves alone have no class of the program in common with its own. -/
theorem apart_of_isAbove (binds : framework.Binds earlier scope) (fits : Fits earlier statement)
    (isAbove : framework.IsAbove earlier scope statement above) (isLeaf : IsLeaf earlier name)
    (unextended : name ∉ statement.bases) :
    ∀ other, .declared other ∈ ClassRef.declared statement.name :: above →
      .declared other ∉ scope.order name := by
  intro other inside held
  rcases List.mem_cons.mp inside with same | isAncestor
  · injection same with same
    exact fits.name_new (same ▸ (binds.order name isLeaf.1).declared other held)
  · obtain ⟨base, isBase, isLeafToo, heldToo⟩ := isAbove.declared other isAncestor
    refine binds.apart base name isLeafToo isLeaf ?_ other heldToo held
    rintro rfl
    exact unextended isBase

/-- The step: a statement that fits does not fail, and what the scope binds stays in shape. -/
theorem Binds.define (binds : framework.Binds earlier scope) (fits : Fits earlier statement) :
    ∃ next, ClassStatement.define scope statement = some next ∧
      framework.Binds (earlier ++ [statement]) next := by
  obtain ⟨above, isAbove⟩ := exists_isAbove binds fits
  have unbound : scope.contains statement.name = false := by
    rw [Bool.eq_false_iff, Ne, binds.known]
    rintro (same | same | old)
    · exact fits.name_ne.1 same
    · exact fits.name_ne.2 same
    · exact fits.name_new old
  refine ⟨scope.insert statement.name (.declared statement.name :: above), ?_, ?_⟩
  · have allowed : (statement.bases.all scope.contains &&
        decide ((statement.bases.map scope.order).filterMap List.head?).Nodup &&
          !scope.contains statement.name) = true := by
      simp only [unbound, Bool.not_false, Bool.and_true, Bool.and_eq_true, List.all_eq_true,
        decide_eq_true_eq]
      exact ⟨isAbove.bases_known, isAbove.bases_nodup⟩
    rw [ClassStatement.define, if_pos allowed, isAbove.linearised, Option.map_some]
  · have own : Scope.order (scope.insert statement.name (.declared statement.name :: above))
        statement.name = .declared statement.name :: above := Dict.findD_insert_self ..
    have others {name : String} (differ : name ≠ statement.name) :
        Scope.order (scope.insert statement.name (.declared statement.name :: above)) name =
          scope.order name := Dict.findD_insert_of_ne _ _ _ differ
    have old {name : String} (inside : name ∈ earlier.map ClassStatement.name) :
        name ≠ statement.name := fun same => fits.name_new (same ▸ inside)
    refine ⟨?_, ?_, ?_, ?_, ?_⟩
    · rw [others fits.name_ne.1.symm, binds.agent]
    · rw [others fits.name_ne.2.symm, binds.reasoner]
    · intro asked
      rw [Dict.contains_insert, binds.known]
      simp only [List.map_append, List.map_singleton, List.mem_append, List.mem_singleton]
      tauto
    · intro name inside
      rw [List.map_append, List.mem_append] at inside
      rcases inside with inside | new
      · rw [others (old inside), List.map_append]
        exact (binds.order name inside).mono (List.subset_append_left _ _)
      · rw [List.mem_singleton.mp new, own]
        exact isOrder_of_isAbove binds fits isAbove
    · intro first second isFirst isSecond differ
      rcases isLeaf_concat isFirst with rfl | ⟨isFirst, firstUnextended⟩
      · rcases isLeaf_concat isSecond with same | ⟨isSecond, unextended⟩
        · exact absurd same.symm differ
        · rw [own, others (old isSecond.1)]
          exact apart_of_isAbove binds fits isAbove isSecond unextended
      · rw [others (old isFirst.1)]
        rcases isLeaf_concat isSecond with rfl | ⟨isSecond, _⟩
        · rw [own]
          intro other held inside
          exact apart_of_isAbove binds fits isAbove isFirst firstUnextended other inside held
        · rw [others (old isSecond.1)]
          exact binds.apart first second isFirst isSecond differ

end Framework

namespace ClassStatement

def AllFit (statements : List ClassStatement) : Prop :=
  ∀ before statement after, statements = before ++ statement :: after → Fits before statement

theorem foldlM_define {framework : Framework} {rest : List ClassStatement} :
    ∀ {earlier : List ClassStatement} {scope : Scope}, framework.Binds earlier scope →
      (∀ before statement after, rest = before ++ statement :: after →
        Fits (earlier ++ before) statement) →
      ∃ last, rest.foldlM define scope = some last ∧ framework.Binds (earlier ++ rest) last := by
  induction rest with
  | nil =>
      intro earlier scope binds _
      exact ⟨scope, rfl, by rwa [List.append_nil]⟩
  | cons statement rest ih =>
      intro earlier scope binds fit
      have fits := fit [] statement rest rfl
      rw [List.append_nil] at fits
      obtain ⟨next, defined, binds⟩ := binds.define fits
      have fitLater : ∀ before other after, rest = before ++ other :: after →
          Fits (earlier ++ [statement] ++ before) other := by
        rintro before other after rfl
        rw [List.append_assoc]
        exact fit (statement :: before) other after rfl
      obtain ⟨last, made, binds⟩ := ih binds fitLater
      refine ⟨last, ?_, ?_⟩
      · rw [List.foldlM_cons, defined]
        exact made
      · rwa [List.append_assoc] at binds

theorem AllFit.exists_scope {statements : List ClassStatement} (fit : AllFit statements)
    (framework : Framework) :
    ∃ scope, statements.foldlM define framework.scope = some scope ∧
      framework.Binds statements scope :=
  foldlM_define framework.binds_scope fit

end ClassStatement

end AgentGraph
