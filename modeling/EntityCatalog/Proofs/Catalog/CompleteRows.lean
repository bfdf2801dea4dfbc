import Mathlib.Data.List.Perm.Basic
import EntityCatalog.Proofs.Catalog.Rows

/-!
# Complete rows

The columns of an entity fall into those that a complete row has to give a value and those that it
may leave out. The validator of complete rows goes through them in this order, the one of rows with
any of the columns in reported order, and both ask every column that a row has. So they find the
same problems in another order, but for the required columns that are missing, and if a column has
no answer, neither of them has one.
-/

namespace EntityCatalog

variable {τ : Type}

section Items

variable {α : Type} {explain : α → Evaluation (List Problem)} {items other : List α}
  {problems : List Problem}

/-- The problems in an answer, none if there is no answer. -/
def problemsIn : Evaluation (List Problem) → List Problem
  | .ok problems => problems
  | .error _ => []

/-- Collecting is done if each item has an answer, and gives the problems of all of them. -/
theorem collectProblems_eq_ok_iff :
    collectProblems explain items = .ok problems ↔
      (∀ item ∈ items, ∃ found, explain item = .ok found) ∧
        problems = items.flatMap fun item => problemsIn (explain item) := by
  induction items generalizing problems with
  | nil => simp [collectProblems, eq_comm]
  | cons item rest ih =>
      rw [collectProblems, bind_eq_ok_iff, List.forall_mem_cons, List.flatMap_cons]
      constructor
      · rintro ⟨first, found, collected⟩
        rcases bind_eq_ok_iff.mp collected with ⟨others, othersFound, ⟨⟩⟩
        rcases ih.mp othersFound with ⟨answered, rfl⟩
        exact ⟨⟨⟨first, found⟩, answered⟩, by rw [found]; rfl⟩
      · rintro ⟨⟨⟨first, found⟩, answered⟩, rfl⟩
        refine ⟨first, found, bind_eq_ok_iff.mpr ⟨_, ih.mpr ⟨answered, rfl⟩, ?_⟩⟩
        rw [found]
        rfl

/-- Collecting has no answer exactly if an item has none. -/
theorem exists_collectProblems_eq_error_iff :
    (∃ halt, collectProblems explain items = .error halt) ↔
      ∃ item ∈ items, ∃ halt, explain item = .error halt := by
  constructor
  · rintro ⟨halt, raised⟩
    rcases exists_of_collectProblems_eq_error raised with ⟨item, mem, itsError⟩
    exact ⟨item, mem, halt, itsError⟩
  · rintro ⟨item, mem, halt, raised⟩
    rcases collected : collectProblems explain items with first | problems
    · exact ⟨first, rfl⟩
    · rcases (collectProblems_eq_ok_iff.mp collected).1 item mem with ⟨found, answered⟩
      rw [raised] at answered
      cases answered

/-- In another order the same problems are collected, in another order. -/
theorem exists_collectProblems_of_perm (same : items.Perm other)
    (collected : collectProblems explain items = .ok problems) :
    ∃ others, collectProblems explain other = .ok others ∧ others.Perm problems := by
  rcases collectProblems_eq_ok_iff.mp collected with ⟨answered, rfl⟩
  refine ⟨_, collectProblems_eq_ok_iff.mpr ⟨?_, rfl⟩, (same.symm.flatMap_right _)⟩
  exact fun item mem => answered item (same.mem_iff.mpr mem)

end Items

namespace Entity

variable (entity : Entity τ)

theorem columnsWhere_sublist (test : Column τ → Bool) :
    (entity.columnsWhere test).Sublist entity.columns.keys :=
  List.filter_sublist.map Prod.fst

theorem mem_columnsWhere_iff {test : Column τ → Bool} {identifier : Identifier} :
    identifier ∈ entity.columnsWhere test ↔
      ∃ column, entity.columns.get? identifier = some column ∧ test column = true :=
  OrderedMap.mem_keys_filter_iff test

theorem requiredColumns_append_optionalColumns_perm :
    (entity.requiredColumns ++ entity.optionalColumns).Perm entity.columns.keys := by
  rw [requiredColumns, optionalColumns, columnsWhere, columnsWhere, ← List.map_append]
  exact (List.filter_append_perm _ entity.columns.entries).map Prod.fst

/-- A column is either required or optional. -/
theorem mem_optionalColumns_iff {identifier : Identifier} (mem : identifier ∈ entity.columns.keys) :
    identifier ∈ entity.optionalColumns ↔ identifier ∉ entity.requiredColumns := by
  rcases OrderedMap.exists_get?_of_mem_keys mem with ⟨column, found⟩
  simp [requiredColumns, optionalColumns, mem_columnsWhere_iff, found]

theorem mem_requiredColumns_iff {identifier : Identifier} :
    identifier ∈ entity.requiredColumns ↔
      ∃ column, entity.columns.get? identifier = some column ∧ column.notNull = true ∧
        column.hasDefault = false := by
  simp [requiredColumns, mem_columnsWhere_iff, Column.isRequired]

/--
Whether a row has every column, by either of its names, that takes no absent values and has no
default.
-/
def IsCompleteRow (entries : List (Value × Value)) : Prop :=
  ∀ identifier column, entity.columns.get? identifier = some column → column.notNull = true →
    column.hasDefault = false → ∃ entry ∈ entries, entry.1.Names identifier

theorem missingKeys_requiredColumns_eq_nil_iff (path : String) {entries : List (Value × Value)} :
    missingKeys path entries entity.requiredColumns = [] ↔ entity.IsCompleteRow entries := by
  simp only [missingKeys_eq_nil_iff, mem_requiredColumns_iff]
  constructor
  · intro present identifier column found notNull noDefault
    exact present identifier ⟨column, found, notNull, noDefault⟩
  · rintro complete identifier ⟨column, found, notNull, noDefault⟩
    exact complete identifier column found notNull noDefault

end Entity

namespace Catalog

variable [Transform τ] {catalog : Catalog τ} {levels : Nat} {entries : List (Value × Value)}
  {path : String}

/-- The answer about a row, by what is collected from its columns. -/
theorem explainWithin_keys (required optional : List Identifier) :
    catalog.explainWithin (levels + 1) (.keys required optional) (.mapping entries) path =
      (collectProblems (catalog.explainEntry (catalog.explainWithin levels) entries path)
        (required ++ optional)).map (missingKeys path entries required ++ ·) := by
  rw [explainWithin_succ]
  simp only [explainStep, Validator.allKeys]
  rcases collectProblems (catalog.explainEntry (catalog.explainWithin levels) entries path)
    (required ++ optional) <;> rfl

variable (entity : Entity τ)

/-- If a row has an answer, so it has as a complete row: its problems after the missing columns. -/
theorem exists_explainWithin_insertValidator {problems : List Problem}
    (found : catalog.explainWithin levels entity.rowValidator (.mapping entries) path =
      .ok problems) :
    ∃ others, others.Perm problems ∧
      catalog.explainWithin levels entity.insertValidator (.mapping entries) path =
        .ok (missingKeys path entries entity.requiredColumns ++ others) := by
  rcases levels with _ | levels
  · cases found
  · rw [Entity.rowValidator, explainWithin_keys, List.nil_append] at found
    rcases map_eq_ok_iff.mp found with ⟨collected, collectedEq, rfl⟩
    have inReportedOrder := entity.requiredColumns_append_optionalColumns_perm.symm
    rcases exists_collectProblems_of_perm inReportedOrder collectedEq with
      ⟨others, othersEq, othersPerm⟩
    refine ⟨others, othersPerm, ?_⟩
    rw [Entity.insertValidator, explainWithin_keys, othersEq]
    rfl

omit entity in
/-- A row has no answer exactly if the entry of a listed column has none. -/
theorem exists_explainWithin_keys_eq_error_iff {required optional : List Identifier} :
    (∃ halt, catalog.explainWithin (levels + 1) (.keys required optional) (.mapping entries) path =
        .error halt) ↔
      ∃ identifier ∈ required ++ optional, ∃ halt,
        catalog.explainEntry (catalog.explainWithin levels) entries path identifier =
          .error halt := by
  rw [explainWithin_keys, ← exists_collectProblems_eq_error_iff]
  rcases collectProblems (catalog.explainEntry (catalog.explainWithin levels) entries path)
    (required ++ optional) with halt | problems <;> simp [Except.map]

/-- A complete row has no answer exactly if the row has none. -/
theorem exists_explainWithin_insertValidator_eq_error_iff :
    (∃ halt, catalog.explainWithin levels entity.insertValidator (.mapping entries) path =
        .error halt) ↔
      ∃ halt, catalog.explainWithin levels entity.rowValidator (.mapping entries) path =
        .error halt := by
  rcases levels with _ | levels
  · exact Iff.rfl
  · have sameColumns := entity.requiredColumns_append_optionalColumns_perm
    rw [Entity.insertValidator, Entity.rowValidator, exists_explainWithin_keys_eq_error_iff,
      exists_explainWithin_keys_eq_error_iff]
    simp only [sameColumns.mem_iff, List.nil_append]

/-- A row has no problems as a complete row exactly if it is complete and has none as a row. -/
theorem explainWithin_insertValidator_eq_ok_nil_iff :
    catalog.explainWithin levels entity.insertValidator (.mapping entries) path = .ok [] ↔
      catalog.explainWithin levels entity.rowValidator (.mapping entries) path = .ok [] ∧
        entity.IsCompleteRow entries := by
  rw [← entity.missingKeys_requiredColumns_eq_nil_iff path]
  constructor
  · intro clean
    rcases row : catalog.explainWithin levels entity.rowValidator (.mapping entries) path with
      halt | problems
    · rcases (exists_explainWithin_insertValidator_eq_error_iff entity).mpr ⟨halt, row⟩ with
        ⟨other, raised⟩
      rw [raised] at clean
      cases clean
    · rcases exists_explainWithin_insertValidator entity row with ⟨others, othersPerm, answer⟩
      rw [answer, Except.ok.injEq, List.append_eq_nil_iff] at clean
      rcases clean with ⟨complete, rfl⟩
      rw [List.nil_perm.mp othersPerm]
      exact ⟨rfl, complete⟩
  · rintro ⟨row, complete⟩
    rcases exists_explainWithin_insertValidator entity row with ⟨others, othersPerm, answer⟩
    rw [answer, complete, List.perm_nil.mp othersPerm]
    rfl

/-- A column of a row that has no answer leaves the row without one. -/
theorem exists_error_of_column {identifier : Identifier} {item : Value} {declaration : Validator τ}
    {halt : Halt} (mem : identifier ∈ entity.columns.keys)
    (present : rowItem? entries identifier = some item)
    (declared : catalog.declared? identifier = some declaration)
    (raised : catalog.explainWithin levels declaration item (entryPath path identifier) =
      .error halt) :
    ∃ halt, catalog.explainWithin levels entity.rowValidator (.mapping entries) path =
      .error halt := by
  rcases levels with _ | levels
  · exact ⟨.tooDeep, rfl⟩
  · rw [Entity.rowValidator, exists_explainWithin_keys_eq_error_iff]
    refine ⟨identifier, mem, ?_⟩
    rcases answer : catalog.explainEntry (catalog.explainWithin levels) entries path identifier with
      first | problems
    · exact ⟨first, rfl⟩
    · simp only [explainEntry, present, declared] at answer
      -- with one more level the column would have the same answer
      have settled : catalog.explainWithin levels declaration item (entryPath path identifier) ≠
          .error .tooDeep := by simp [answer]
      rw [explainWithin_of_le (Nat.le_succ levels) settled, answer] at raised
      cases raised

/--
Each column of an entity is either required or optional, both in reported order. Within however
many levels, a row has no problems as a complete row exactly if it has none as a row and if it has
every column, by either of its names, that takes no absent values and has no default. If a column of
the row has no answer, then neither has the row, as a complete row or as a row.
-/
theorem explain_insertValidator_iff_rowValidator (catalog : Catalog τ) (entity : Entity τ)
    (levels : Nat) (entries : List (Value × Value)) (path : String) :
    (entity.requiredColumns.Sublist entity.columns.keys ∧
        entity.optionalColumns.Sublist entity.columns.keys ∧
        (entity.requiredColumns ++ entity.optionalColumns).Perm entity.columns.keys ∧
        ∀ identifier ∈ entity.columns.keys,
          (identifier ∈ entity.optionalColumns ↔ identifier ∉ entity.requiredColumns)) ∧
      (catalog.explainWithin levels entity.insertValidator (.mapping entries) path = .ok [] ↔
        catalog.explainWithin levels entity.rowValidator (.mapping entries) path = .ok [] ∧
          entity.IsCompleteRow entries) ∧
      ∀ identifier ∈ entity.columns.keys, ∀ item declaration halt,
        rowItem? entries identifier = some item →
          catalog.declared? identifier = some declaration →
            catalog.explainWithin levels declaration item (entryPath path identifier) =
                .error halt →
              (∃ halt, catalog.explainWithin levels entity.insertValidator (.mapping entries) path =
                  .error halt) ∧
                ∃ halt, catalog.explainWithin levels entity.rowValidator (.mapping entries) path =
                  .error halt := by
  refine ⟨⟨entity.columnsWhere_sublist _, entity.columnsWhere_sublist _,
    entity.requiredColumns_append_optionalColumns_perm,
    fun identifier mem => entity.mem_optionalColumns_iff mem⟩,
    explainWithin_insertValidator_eq_ok_nil_iff entity, ?_⟩
  intro identifier mem item declaration halt present declared raised
  have rowRaised := exists_error_of_column entity mem present declared raised
  exact ⟨(exists_explainWithin_insertValidator_eq_error_iff entity).mpr rowRaised, rowRaised⟩

end Catalog

end EntityCatalog
