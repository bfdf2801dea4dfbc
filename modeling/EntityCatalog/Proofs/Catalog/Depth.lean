import Mathlib.Algebra.Order.BigOperators.Group.Finset
import EntityCatalog.Proofs.Catalog.Failure
import EntityCatalog.Proofs.Registration.Success

/-!
# How deep evaluations go

Without transforms an evaluation goes on either with a validator inside of the one at hand or with a
declaration that it defers to, both about the same value, or else with a part of the value. If no
declaration defers to itself, not even through others, no declaration comes up twice about the same
value. So the levels that an evaluation needs are bounded by the height of its validator, and for
the value and each value inside of another one by the heights of all declarations together. Rows
and collections may lead back to declarations that came up before, as they lead into the value.
-/

namespace EntityCatalog

variable {τ : Type}

namespace Value

mutual

/-- How many collections and rows lie inside of each other in a value. -/
def depth : Value → Nat
  | .list items => itemsDepth items + 1
  | .tuple items => itemsDepth items + 1
  | .mapping entries => entriesDepth entries + 1
  | _ => 0
termination_by structural value => value

/-- The depth of the deepest of several values. -/
def itemsDepth : List Value → Nat
  | [] => 0
  | item :: rest => max item.depth (itemsDepth rest)
termination_by structural items => items

/-- The depth of the deepest of the values of several entries. -/
def entriesDepth : List (Value × Value) → Nat
  | [] => 0
  | (_, item) :: rest => max item.depth (entriesDepth rest)
termination_by structural entries => entries

end

variable {item : Value}

theorem depth_le_itemsDepth {items : List Value} (mem : item ∈ items) :
    item.depth ≤ itemsDepth items := by
  induction items with
  | nil => cases mem
  | cons first rest ih =>
      rw [itemsDepth]
      rcases List.mem_cons.mp mem with rfl | later
      · exact Nat.le_max_left _ _
      · exact (ih later).trans (Nat.le_max_right _ _)

theorem depth_le_entriesDepth {entries : List (Value × Value)} {name : Value}
    (mem : (name, item) ∈ entries) : item.depth ≤ entriesDepth entries := by
  induction entries with
  | nil => cases mem
  | cons first rest ih =>
      rw [entriesDepth]
      rcases List.mem_cons.mp mem with rfl | later
      · exact Nat.le_max_left _ _
      · exact (ih later).trans (Nat.le_max_right _ _)

theorem depth_lt_of_rowItem? {entries : List (Value × Value)} {key : Identifier}
    (found : rowItem? entries key = some item) : item.depth < (Value.mapping entries).depth := by
  have mem : ∃ name, (name, item) ∈ entries := by
    rcases Option.or_eq_some_iff.mp found with byIdentifier | ⟨_, byText⟩
    · exact ⟨_, OrderedMap.mem_of_findEntry_eq_some byIdentifier⟩
    · exact ⟨_, OrderedMap.mem_of_findEntry_eq_some byText⟩
  rcases mem with ⟨name, mem⟩
  exact Nat.lt_succ_of_le (depth_le_entriesDepth mem)

end Value

namespace Validator

mutual

/-- How many validators lie inside of each other in a validator, itself included. -/
def height : Validator τ → Nat
  | .allOf parts => partsHeight parts + 1
  | .transformed inner _ => inner.height + 1
  | .nullable inner => inner.height + 1
  | .collection inner => inner.height + 1
  | _ => 1

/-- The height of the highest of several validators. -/
def partsHeight : List (Validator τ) → Nat
  | [] => 0
  | part :: rest => max part.height (partsHeight rest)

end

theorem height_pos (validator : Validator τ) : 0 < validator.height := by
  cases validator <;> simp [height]

variable {part : Validator τ} {parts : List (Validator τ)} (mem : part ∈ parts)

include mem

theorem height_le_partsHeight : part.height ≤ partsHeight parts := by
  induction parts with
  | nil => cases mem
  | cons first rest ih =>
      rw [partsHeight]
      rcases List.mem_cons.mp mem with rfl | later
      · exact Nat.le_max_left _ _
      · exact (ih later).trans (Nat.le_max_right _ _)

theorem deferred_subset_partsDeferred : part.deferred ⊆ partsDeferred parts := by
  induction parts with
  | nil => cases mem
  | cons first rest ih =>
      rw [partsDeferred]
      rcases List.mem_cons.mp mem with rfl | later
      · exact List.subset_append_left _ _
      · exact List.Subset.trans (ih later) (List.subset_append_right _ _)

theorem isUntransformed_of_mem (plain : partsUntransformed parts = true) :
    part.isUntransformed = true := by
  induction parts with
  | nil => cases mem
  | cons first rest ih =>
      rw [partsUntransformed, Bool.and_eq_true] at plain
      rcases List.mem_cons.mp mem with rfl | later
      · exact plain.1
      · exact ih later plain.2

end Validator

namespace Catalog

/-- The height of the declaration of an identifier. -/
def heightOf (catalog : Catalog τ) (identifier : Identifier) : Nat :=
  ((catalog.declared? identifier).map Validator.height).getD 0

/-- The heights of all declarations together. -/
def totalHeight (catalog : Catalog τ) : Nat :=
  catalog.identifiers.foldr (fun identifier rest => catalog.heightOf identifier + rest) 0

/-- How many levels an evaluation takes at most, if it has no transforms and no circles. -/
def levelBound (catalog : Catalog τ) (validator : Validator τ) (value : Value) : Nat :=
  validator.height + (value.depth + 1) * catalog.totalHeight

/-- Whether a validator refers to an identifier outside of collections, maybe through others. -/
def Reaches (catalog : Catalog τ) (validator : Validator τ) (identifier : Identifier) : Prop :=
  ∃ target ∈ validator.deferred, Relation.ReflTransGen catalog.Defers target identifier

open Classical in
/-- The heights of all declarations that come up about the same value together. -/
noncomputable def reachedHeight (catalog : Catalog τ) (validator : Validator τ) : Nat :=
  ∑ identifier ∈ catalog.identifiers.toFinset with catalog.Reaches validator identifier,
    catalog.heightOf identifier

/-- The levels that are enough to evaluate a value. -/
noncomputable def levelsNeeded (catalog : Catalog τ) (validator : Validator τ) (value : Value) :
    Nat :=
  validator.height + catalog.reachedHeight validator + value.depth * catalog.totalHeight

variable {catalog : Catalog τ} {validator : Validator τ} {value : Value}

section Heights

theorem reachedHeight_le_totalHeight (catalog : Catalog τ) (validator : Validator τ) :
    catalog.reachedHeight validator ≤ catalog.totalHeight := by
  classical
  have nodup : catalog.identifiers.Nodup := catalog.declarations.nodup_keys
  have total : catalog.totalHeight =
      ∑ identifier ∈ catalog.identifiers.toFinset, catalog.heightOf identifier := by
    simp [List.sum_toFinset _ nodup, totalHeight, List.sum_eq_foldr, List.foldr_map]
  rw [total]
  exact Finset.sum_le_sum_of_subset (Finset.filter_subset _ _)

theorem reachedHeight_le_of_subset {part : Validator τ}
    (subset : part.deferred ⊆ validator.deferred) :
    catalog.reachedHeight part ≤ catalog.reachedHeight validator := by
  classical
  apply Finset.sum_le_sum_of_subset
  intro identifier mem
  rw [Finset.mem_filter] at mem ⊢
  rcases mem with ⟨listed, target, deferred, reaches⟩
  exact ⟨listed, target, subset deferred, reaches⟩

theorem mem_identifiers_of_declared? {identifier : Identifier}
    (declared : catalog.declared? identifier = some validator) :
    identifier ∈ catalog.identifiers :=
  OrderedMap.mem_keys_of_get? (find?_of_declared? declared)

/-- A declaration that is not on a circle is not among those that it leads to itself. -/
theorem height_add_reachedHeight_le {target : Identifier}
    (acyclic : ¬Relation.TransGen catalog.Defers target target)
    (declared : catalog.declared? target = some validator) :
    validator.height + catalog.reachedHeight validator ≤
      catalog.reachedHeight (.reference target) := by
  classical
  let reached := catalog.identifiers.toFinset.filter fun identifier =>
    catalog.Reaches validator identifier
  have absent : target ∉ reached := by
    intro mem
    rcases (Finset.mem_filter.mp mem).2 with ⟨next, deferred, back⟩
    exact acyclic (.head' ⟨validator, declared, deferred⟩ back)
  have heightEq : validator.height = catalog.heightOf target := by simp [heightOf, declared]
  calc
    validator.height + catalog.reachedHeight validator =
        ∑ identifier ∈ insert target reached, catalog.heightOf identifier := by
      rw [Finset.sum_insert absent, heightEq]
      rfl
    _ ≤ catalog.reachedHeight (.reference target) := by
      apply Finset.sum_le_sum_of_subset
      intro identifier mem
      rw [Finset.mem_filter]
      rcases Finset.mem_insert.mp mem with rfl | mem
      · have listed := List.mem_toFinset.mpr (mem_identifiers_of_declared? declared)
        exact ⟨listed, identifier, by simp [Validator.deferred], .refl⟩
      · rcases Finset.mem_filter.mp mem with ⟨listed, next, deferred, reaches⟩
        refine ⟨listed, target, by simp [Validator.deferred], ?_⟩
        exact .head ⟨validator, declared, deferred⟩ reaches

theorem levelsNeeded_le_levelBound :
    catalog.levelsNeeded validator value ≤ catalog.levelBound validator value := by
  have reached := catalog.reachedHeight_le_totalHeight validator
  rw [levelsNeeded, levelBound, Nat.succ_mul]
  omega

end Heights

variable [Transform τ] {next : Validator τ} {nextValue : Value}

theorem GoesOnWith.isUntransformed (goesOn : catalog.GoesOnWith validator value next nextValue)
    (untransformed : catalog.IsUntransformed) (plain : validator.isUntransformed = true) :
    next.isUntransformed = true := by
  cases goesOn with
  | reference declared => exact untransformed _ _ declared
  | part mem => exact Validator.isUntransformed_of_mem mem plain
  | transformed converted => cases plain
  | nullable => exact plain
  | list mem => exact plain
  | tuple mem => exact plain
  | key found declared => exact untransformed _ _ declared

omit [Transform τ] in
/-- Inside of a collection every declaration may come up again, for a value that is less deep. -/
theorem levelsNeeded_lt_of_item {inner : Validator τ} {item : Value}
    (less : item.depth < value.depth) :
    catalog.levelsNeeded inner item < catalog.levelsNeeded (.collection inner) value := by
  have reached := catalog.reachedHeight_le_totalHeight inner
  have descends : (item.depth + 1) * catalog.totalHeight ≤ value.depth * catalog.totalHeight :=
    Nat.mul_le_mul_right _ less
  rw [Nat.succ_mul] at descends
  rw [levelsNeeded, levelsNeeded, Validator.height]
  omega

/-- Going on with an evaluation takes fewer levels than the evaluation itself. -/
theorem GoesOnWith.levelsNeeded_lt (goesOn : catalog.GoesOnWith validator value next nextValue)
    (acyclic : ∀ identifier, ¬Relation.TransGen catalog.Defers identifier identifier)
    (plain : validator.isUntransformed = true) :
    catalog.levelsNeeded next nextValue < catalog.levelsNeeded validator value := by
  have positive := validator.height_pos
  cases goesOn with
  | reference declared =>
      have reached := height_add_reachedHeight_le (acyclic _) declared
      rw [levelsNeeded, levelsNeeded]
      omega
  | @part parts _ _ mem =>
      have height := Validator.height_le_partsHeight mem
      have reached : catalog.reachedHeight next ≤ catalog.reachedHeight (.allOf parts) :=
        reachedHeight_le_of_subset (Validator.deferred_subset_partsDeferred mem)
      rw [levelsNeeded, levelsNeeded, Validator.height]
      omega
  | transformed converted => cases plain
  | nullable =>
      have reached : catalog.reachedHeight next ≤ catalog.reachedHeight (.nullable next) :=
        reachedHeight_le_of_subset (List.Subset.refl _)
      rw [levelsNeeded, levelsNeeded, Validator.height]
      omega
  | list mem =>
      exact levelsNeeded_lt_of_item (Nat.lt_succ_of_le (Value.depth_le_itemsDepth mem))
  | tuple mem =>
      exact levelsNeeded_lt_of_item (Nat.lt_succ_of_le (Value.depth_le_itemsDepth mem))
  | @key required optional entries key _ _ found declared =>
      have reached := (height_add_reachedHeight_le (acyclic key) declared).trans
        (reachedHeight_le_totalHeight catalog _)
      have descends : (nextValue.depth + 1) * catalog.totalHeight ≤
          (Value.mapping entries).depth * catalog.totalHeight :=
        Nat.mul_le_mul_right _ (Value.depth_lt_of_rowItem? found)
      rw [Nat.succ_mul] at descends
      rw [levelsNeeded, levelsNeeded]
      omega

section Acyclic

variable (untransformed : catalog.IsUntransformed)
  (acyclic : ∀ identifier, ¬Relation.TransGen catalog.Defers identifier identifier)

include untransformed acyclic

theorem explainWithin_ne_tooDeep_of_levelsNeeded_le {levels : Nat}
    (plain : validator.isUntransformed = true)
    (enough : catalog.levelsNeeded validator value ≤ levels) (path : String) :
    catalog.explainWithin levels validator value path ≠ .error .tooDeep := by
  induction levels generalizing validator value path with
  | zero =>
      have positive := validator.height_pos
      rw [levelsNeeded] at enough
      omega
  | succ levels ih =>
      intro deep
      rw [explainWithin_succ] at deep
      rcases raises_or_goesOnWith_of_explainStep deep with
        ⟨_, ⟨⟩, _⟩ | ⟨next, nextValue, nextPath, goesOn, nextDeep⟩
      have fewer := goesOn.levelsNeeded_lt acyclic plain
      exact ih (goesOn.isUntransformed untransformed plain) (by omega) nextPath nextDeep

theorem explainWithin_levelBound_ne_tooDeep (plain : validator.isUntransformed = true)
    (value : Value) (path : String) :
    catalog.explainWithin (catalog.levelBound validator value) validator value path ≠
      .error .tooDeep :=
  explainWithin_ne_tooDeep_of_levelsNeeded_le untransformed acyclic plain
    levelsNeeded_le_levelBound path

theorem settles_of_acyclic (plain : validator.isUntransformed = true) (value : Value)
    (path : String) : catalog.Settles validator value path :=
  ⟨_, explainWithin_levelBound_ne_tooDeep untransformed acyclic plain value path⟩

/--
If no declaration defers to itself and there are no transforms, every evaluation comes to an answer,
which is the same for all numbers of levels from a certain bound on. Evaluation as it is gives this
answer too unless the bound is above the levels that it has.
-/
theorem exists_answer_of_acyclic (plain : validator.isUntransformed = true) (value : Value)
    (path : String) :
    ∃ answer, answer ≠ .error .tooDeep ∧
      (∀ levels, catalog.levelBound validator value ≤ levels →
        catalog.explainWithin levels validator value path = answer) ∧
      (catalog.levelBound validator value ≤ greatestDepth →
        catalog.explain validator value path = answer) := by
  have settled := explainWithin_levelBound_ne_tooDeep untransformed acyclic plain value path
  have stable (levels : Nat) (enough : catalog.levelBound validator value ≤ levels) :
      catalog.explainWithin levels validator value path =
        catalog.explainWithin (catalog.levelBound validator value) validator value path :=
    explainWithin_of_le enough settled
  exact ⟨_, settled, stable, stable greatestDepth⟩

end Acyclic

end Catalog

namespace Sample

def treeNode : Identifier := inApp "node" (by decide)

def treeParent : Identifier := inApp "parent" (by decide)

def treeChildren : Identifier := inApp "children" (by decide)

/-- Nodes whose parents and children are nodes again. -/
def tree : Catalog Empty :=
  .ofList
    [(treeNode, .keys [] [treeParent, treeChildren]),
      (treeParent, .nullable (.reference treeNode)),
      (treeChildren, .collection (.reference treeNode))]

/-- A node with two children, of which one has a parent. -/
def family : Value :=
  .mapping [(.identifier treeChildren,
    .list [.mapping [(.identifier treeParent, .null)],
      .mapping [(.identifier treeParent, .mapping [])]])]

/-- The declarations lead back to that of the nodes, but only into the value. -/
theorem exists_answer_of_tree :
    tree.IsUntransformed ∧
      (∀ identifier, ¬Relation.TransGen tree.Defers identifier identifier) ∧
      tree.LeadsTo (.keys [] [treeParent, treeChildren]) (.nullable (.reference treeNode)) ∧
      tree.LeadsTo (.reference treeNode) (.keys [] [treeParent, treeChildren]) ∧
      ∀ levels, 26 ≤ levels →
        tree.explainWithin levels (.reference treeNode) family "value" = .ok [] := by
  have listed : ∀ key ∈ tree.identifiers, ∀ declaration ∈ (tree.declared? key).toList,
      declaration.isUntransformed = true ∧
        ∀ target ∈ declaration.deferred, key = treeParent ∧ target = treeNode := by
    decide +kernel
  have declared {key : Identifier} {declaration : Validator Empty}
      (found : tree.declared? key = some declaration) :=
    listed key (Catalog.mem_identifiers_of_declared? found) declaration (by simp [found])
  have untransformed : tree.IsUntransformed := fun key declaration found => (declared found).1
  have acyclic : ∀ identifier, ¬Relation.TransGen tree.Defers identifier identifier := by
    intro identifier circle
    rcases Relation.TransGen.head'_iff.mp circle with ⟨_, ⟨_, found, mem⟩, _⟩
    rcases Relation.TransGen.tail'_iff.mp circle with ⟨_, _, _, lastFound, lastMem⟩
    have asSource := ((declared found).2 _ mem).1
    have asTarget := ((declared lastFound).2 _ lastMem).2
    exact absurd (asSource.symm.trans asTarget) (by decide)
  have parent : tree.declared? treeParent = some (.nullable (.reference treeNode)) := by
    decide +kernel
  refine ⟨untransformed, acyclic, .key parent, .reference (by decide +kernel), ?_⟩
  intro levels enough
  have plain : (Validator.reference treeNode : Validator Empty).isUntransformed = true := rfl
  have bound : tree.levelBound (.reference treeNode) family = 26 := by decide +kernel
  rcases Catalog.exists_answer_of_acyclic untransformed acyclic plain family "value" with
    ⟨answer, _, stable, _⟩
  have clean : tree.explainWithin 26 (.reference treeNode) family "value" = .ok [] := by
    decide +kernel
  rw [stable levels (by omega), ← stable 26 (by omega), clean]

end Sample

end EntityCatalog
