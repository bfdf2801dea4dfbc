import Mathlib.Logic.Relation
import EntityCatalog.Catalog.Evaluation
import EntityCatalog.Proofs.OrderedMap

/-!
# Termination of evaluation

An evaluation settles if some number of levels is enough for it, and more levels than enough change
nothing. A declaration defers to another one if it refers to it outside of collections, so that both
are asked about the same value. A circle of declarations that are no more than references is never
left, so there an evaluation does not settle.
-/

namespace EntityCatalog

variable {τ : Type}

namespace Validator

mutual

/-- What a validator refers to outside of collections. -/
def deferred : Validator τ → List Identifier
  | .reference target => [target]
  | .allOf parts => partsDeferred parts
  | .transformed inner _ => inner.deferred
  | .nullable inner => inner.deferred
  | _ => []

/-- What several validators refer to outside of collections. -/
def partsDeferred : List (Validator τ) → List Identifier
  | [] => []
  | part :: rest => part.deferred ++ partsDeferred rest

end

mutual

/-- Whether no transform occurs in a validator. -/
def isUntransformed : Validator τ → Bool
  | .allOf parts => partsUntransformed parts
  | .transformed _ _ => false
  | .nullable inner => inner.isUntransformed
  | .collection inner => inner.isUntransformed
  | _ => true

/-- Whether no transform occurs in several validators. -/
def partsUntransformed : List (Validator τ) → Bool
  | [] => true
  | part :: rest => part.isUntransformed && partsUntransformed rest

end

end Validator

section Items

variable {α : Type} {explain other : α → Evaluation (List Problem)} {items : List α}

theorem collectProblems_congr
    (agree : ∀ item ∈ items, explain item ≠ .error .tooDeep → other item = explain item)
    (settled : collectProblems explain items ≠ .error .tooDeep) :
    collectProblems other items = collectProblems explain items := by
  induction items with
  | nil => rfl
  | cons item rest ih =>
      have itemAgree := agree item List.mem_cons_self
      have restAgree := ih fun later mem => agree later (List.mem_cons_of_mem _ mem)
      rw [collectProblems] at settled ⊢
      rw [collectProblems]
      rcases itemEq : explain item with halt | problems
      · rw [itemEq] at settled itemAgree
        rw [itemAgree settled]
        rfl
      · rw [itemEq] at settled itemAgree
        have restSettled : collectProblems explain rest ≠ .error .tooDeep := by
          intro restEq
          rw [restEq] at settled
          exact settled rfl
        rw [itemAgree (by simp), restAgree restSettled]

theorem firstProblems_congr
    (agree : ∀ item ∈ items, explain item ≠ .error .tooDeep → other item = explain item)
    (settled : firstProblems explain items ≠ .error .tooDeep) :
    firstProblems other items = firstProblems explain items := by
  induction items with
  | nil => rfl
  | cons item rest ih =>
      have itemAgree := agree item List.mem_cons_self
      have restAgree := ih fun later mem => agree later (List.mem_cons_of_mem _ mem)
      rw [firstProblems] at settled ⊢
      rw [firstProblems]
      rcases itemEq : explain item with halt | problems
      · rw [itemEq] at settled itemAgree
        rw [itemAgree settled]
        rfl
      · rw [itemEq] at settled itemAgree
        rw [itemAgree (by simp)]
        by_cases empty : problems = []
        · simp only [bind, Except.bind, empty, if_true] at settled ⊢
          exact restAgree settled
        · simp [bind, Except.bind, empty]

end Items

namespace Catalog

variable [Transform τ] {catalog : Catalog τ}

section Congruence

variable {explain other : Validator τ → Value → String → Evaluation (List Problem)}
  (agree : ∀ {validator value path}, explain validator value path ≠ .error .tooDeep →
    other validator value path = explain validator value path)

include agree

omit [Transform τ] in
theorem explainEntry_congr {entries : List (Value × Value)} {path : String} {key : Identifier}
    (settled : catalog.explainEntry explain entries path key ≠ .error .tooDeep) :
    catalog.explainEntry other entries path key =
      catalog.explainEntry explain entries path key := by
  unfold explainEntry at settled ⊢
  rcases item : rowItem? entries key with _ | item <;>
    rcases found : catalog.declared? key with _ | declaration
  case some.some =>
      rw [item, found] at settled
      exact agree settled
  all_goals rfl

/-- A level gives the same if the next one gives the same wherever it settles. -/
theorem explainStep_congr {validator : Validator τ} {value : Value} {path : String}
    (settled : catalog.explainStep explain validator value path ≠ .error .tooDeep) :
    catalog.explainStep other validator value path =
      catalog.explainStep explain validator value path := by
  cases validator with
  | base typeName => rfl
  | reference target =>
      simp only [explainStep] at settled ⊢
      rcases found : catalog.declared? target with _ | declaration
      · rfl
      · rw [found] at settled
        exact agree settled
  | oneOf labels => rfl
  | maxLength limit => rfl
  | allOf parts => exact firstProblems_congr (fun part _ => agree) settled
  | transformed inner transform =>
      simp only [explainStep] at settled ⊢
      rcases converted : Transform.toStorage transform value with rejection | stored
      · cases rejection <;> rfl
      · rw [converted] at settled
        exact agree settled
  | nullable inner =>
      simp only [explainStep] at settled ⊢
      by_cases absent : value = .null
      · rw [if_pos absent, if_pos absent]
      · rw [if_neg absent] at settled ⊢
        rw [if_neg absent]
        exact agree settled
  | collection inner =>
      cases value with
      | list items => exact collectProblems_congr (fun item _ => agree) settled
      | tuple items => exact collectProblems_congr (fun item _ => agree) settled
      | _ => rfl
  | keys required optional =>
      cases value with
      | mapping entries =>
          simp only [explainStep] at settled ⊢
          have entriesSettled : collectProblems (catalog.explainEntry explain entries path)
              (Validator.allKeys required optional) ≠ .error .tooDeep := by
            intro deep
            rw [deep] at settled
            exact settled rfl
          rw [collectProblems_congr (fun key _ => explainEntry_congr agree) entriesSettled]
      | _ => rfl
  | foreign value => rfl

end Congruence

/-- More levels change nothing once there are enough. -/
theorem explainWithin_of_le {levels more : Nat} (le : levels ≤ more) {validator : Validator τ}
    {value : Value} {path : String}
    (settled : catalog.explainWithin levels validator value path ≠ .error .tooDeep) :
    catalog.explainWithin more validator value path =
      catalog.explainWithin levels validator value path := by
  induction levels generalizing more validator value path with
  | zero => exact absurd rfl settled
  | succ levels ih =>
      rcases more with _ | more
      · omega
      · rw [explainWithin_succ] at settled ⊢
        rw [explainWithin_succ]
        exact explainStep_congr (ih (Nat.le_of_succ_le_succ le)) settled

theorem explainEntry_of_le {levels more : Nat} (le : levels ≤ more)
    {entries : List (Value × Value)} {path : String} {key : Identifier}
    (settled : catalog.explainEntry (catalog.explainWithin levels) entries path key ≠
      .error .tooDeep) :
    catalog.explainEntry (catalog.explainWithin more) entries path key =
      catalog.explainEntry (catalog.explainWithin levels) entries path key :=
  explainEntry_congr (explainWithin_of_le le) settled

/-- Whether some number of levels is enough to evaluate a value. -/
def Settles (catalog : Catalog τ) (validator : Validator τ) (value : Value) (path : String) :
    Prop :=
  ∃ levels, catalog.explainWithin levels validator value path ≠ .error .tooDeep

/-- Whether the declaration of an identifier refers to another one outside of collections. -/
def Defers (catalog : Catalog τ) (source target : Identifier) : Prop :=
  ∃ declaration, catalog.declared? source = some declaration ∧ target ∈ declaration.deferred

/-- Whether no transform occurs in any declaration. -/
def IsUntransformed (catalog : Catalog τ) : Prop :=
  ∀ key declaration, catalog.declared? key = some declaration →
    declaration.isUntransformed = true

/-- If more levels do no harm and there are enough for each item, some number is enough for all. -/
theorem exists_common_levels {α : Type} {enough : Nat → α → Prop}
    (more : ∀ {levels higher item}, levels ≤ higher → enough levels item → enough higher item)
    {items : List α} (each : ∀ item ∈ items, ∃ levels, enough levels item) :
    ∃ levels, ∀ item ∈ items, enough levels item := by
  induction items with
  | nil => exact ⟨0, by simp⟩
  | cons item rest ih =>
      rcases each item List.mem_cons_self with ⟨first, firstEnough⟩
      rcases ih fun later mem => each later (List.mem_cons_of_mem _ mem) with
        ⟨others, othersEnough⟩
      refine ⟨max first others, ?_⟩
      intro later mem
      rcases List.mem_cons.mp mem with rfl | mem
      · exact more (Nat.le_max_left _ _) firstEnough
      · exact more (Nat.le_max_right _ _) (othersEnough later mem)

omit [Transform τ] in
theorem find?_of_declared? {identifier : Identifier} {declaration : Validator τ}
    (found : catalog.declared? identifier = some declaration) :
    catalog.find? identifier = some declaration := by
  unfold declared? at found
  split at found
  · cases found
  · exact found

/-- Where declarations are no more than references, a circle of them is never left. -/
theorem not_settles_of_circle
    (thin : ∀ source declaration, catalog.declared? source = some declaration →
      ∀ target ∈ declaration.deferred,
        declaration = .reference target ∨ declaration = .nullable (.reference target))
    {source : Identifier} (circle : Relation.TransGen catalog.Defers source source)
    {declaration : Validator τ} (found : catalog.declared? source = some declaration)
    {value : Value} (present : value ≠ .null) (path : String) :
    ¬catalog.Settles declaration value path := by
  rintro ⟨levels, settled⟩
  apply settled
  clear settled
  induction levels generalizing source declaration with
  | zero => rfl
  | succ levels ih =>
      rcases Relation.TransGen.head'_iff.mp circle with ⟨next, ⟨other, otherFound, mem⟩, back⟩
      rw [found, Option.some.injEq] at otherFound
      subst otherFound
      have nextCircle : Relation.TransGen catalog.Defers next next :=
        Relation.TransGen.tail' back ⟨declaration, found, mem⟩
      rcases Relation.TransGen.head'_iff.mp nextCircle with ⟨_, ⟨nextDeclaration, nextFound, _⟩, _⟩
      have reference : catalog.explainWithin (levels + 1) (.reference next) value path =
          .error .tooDeep := by
        rw [explainWithin_succ]
        simp only [explainStep, nextFound]
        exact ih nextCircle nextFound
      rcases thin source declaration found next mem with rfl | rfl
      · exact reference
      · rw [explainWithin_succ]
        simp only [explainStep, if_neg present]
        by_contra settled
        rw [← explainWithin_of_le (Nat.le_succ levels) settled] at settled
        exact settled reference

end Catalog

end EntityCatalog
