import EntityCatalog.Proofs.Consistency
import EntityCatalog.Proofs.Identifier
import EntityCatalog.Proofs.Registration.Provenance

/-!
# Types that pass for each other

A declared type is one text for the name of a type and its category, and the check of a batch
compares these texts. Names are free to begin with an underscore and to end with the word of a
category in parentheses, so a scalar may be declared like an array, a composite type or an
enumeration, and an array like one of the latter two. The check tells all other types apart: it
never takes a composite type for an enumeration, nor two names in one category for each other.
-/

namespace EntityCatalog

variable {τ : Type}

namespace ColumnCategory

/-- What stands behind the names of the composite types and of the enumerations. -/
def mark (category : ColumnCategory) : String := " (" ++ category.text ++ ")"

/-- Whether the types of a category have its word behind their names. -/
def IsMarked (category : ColumnCategory) : Prop := category = .composite ∨ category = .enumeration

/-- No text ends with both words. -/
theorem append_mark_ne (left right : String) :
    left ++ mark .composite ≠ right ++ mark .enumeration := by
  intro same
  have ends : (mark .enumeration).toList <:+ left.toList ++ (mark .composite).toList := by
    rw [← String.toList_append, same, String.toList_append]
    exact List.suffix_append _ _
  have shorter : (mark .enumeration).toList.length ≤ (mark .composite).toList.length := by decide
  have within := List.suffix_of_suffix_length_le ends (List.suffix_append _ _) shorter
  exact absurd within (by decide)

theorem append_mark_eq_iff {left right : String} {category other : ColumnCategory}
    (isMarked : category.IsMarked) (otherMarked : other.IsMarked) :
    left ++ category.mark = right ++ other.mark ↔ category = other ∧ left = right := by
  rcases isMarked with rfl | rfl <;> rcases otherMarked with rfl | rfl
  · simp
  · simpa using append_mark_ne left right
  · simpa using (append_mark_ne right left).symm
  · simp

/-- An underscore in front of a marked name belongs to what the mark stands behind. -/
theorem underscore_append_eq_iff {left right : String} (present : right ≠ "")
    (category : ColumnCategory) :
    "_" ++ left = right ++ category.mark ↔
      ∃ name, left = name ++ category.mark ∧ right = "_" ++ name := by
  constructor
  · intro same
    have lists : '_' :: left.toList = right.toList ++ category.mark.toList := by
      simpa using congrArg String.toList same
    rcases List.cons_eq_append_iff.mp lists with ⟨noName, _⟩ | ⟨name, rightEq, leftEq⟩
    · exact absurd (String.toList_eq_nil_iff.mp noName) present
    · exact ⟨String.ofList name, String.toList_injective (by simpa using leftEq),
        String.toList_injective (by simpa using rightEq)⟩
  · rintro ⟨name, rfl, rfl⟩
    rw [String.append_assoc]

end ColumnCategory

namespace Column

variable {column other : Column τ}

/-- Whether two columns have one type: a category and a name. -/
def SameType (column other : Column τ) : Prop :=
  column.category = other.category ∧ column.typeName = other.typeName

/--
Whether a column passes for another one of another category, because its type's name reads like a
declared type: a scalar like an array or a marked type, an array like the array of a marked type.
-/
inductive Imitates (column other : Column τ) : Prop where
  | array (scalar : column.category = .scalar) (array : other.category = .array)
      (reads : column.typeName = "_" ++ other.typeName)
  | marked (scalar : column.category = .scalar) (isMarked : other.category.IsMarked)
      (reads : column.typeName = other.typeName ++ other.category.mark)
  | underscored (name : String) (array : column.category = .array)
      (isMarked : other.category.IsMarked) (reads : column.typeName = name ++ other.category.mark)
      (begins : other.typeName = "_" ++ name)

theorem category_cases (column : Column τ) :
    column.category = .scalar ∨ column.category = .array ∨ column.category.IsMarked := by
  unfold ColumnCategory.IsMarked
  cases column.category <;> simp

theorem declaredType_of_scalar (scalar : column.category = .scalar) :
    column.declaredType = column.typeName := by
  rw [declaredType, scalar]

theorem declaredType_of_array (array : column.category = .array) :
    column.declaredType = "_" ++ column.typeName := by
  rw [declaredType, array]

theorem declaredType_of_isMarked (isMarked : column.category.IsMarked) :
    column.declaredType = column.typeName ++ column.category.mark := by
  rcases isMarked with category | category <;>
    simp only [declaredType, category, ColumnCategory.mark, String.append_assoc]

theorem SameType.declaredType_eq (same : column.SameType other) :
    column.declaredType = other.declaredType := by
  rw [declaredType, declaredType, same.1, same.2]

theorem Imitates.declaredType_eq (imitates : column.Imitates other) :
    column.declaredType = other.declaredType := by
  cases imitates with
  | array scalar array reads =>
      rw [declaredType_of_scalar scalar, declaredType_of_array array, reads]
  | marked scalar isMarked reads =>
      rw [declaredType_of_scalar scalar, declaredType_of_isMarked isMarked, reads]
  | underscored name array isMarked reads begins =>
      rw [declaredType_of_array array, declaredType_of_isMarked isMarked, reads, begins,
        String.append_assoc]

/-- Whether the name of a column's type neither begins nor ends like a declared type. -/
structure IsPlainlyNamed (column : Column τ) : Prop where
  noUnderscore : column.category = .scalar → ∀ name, column.typeName ≠ "_" ++ name
  noMark : ∀ category : ColumnCategory, category.IsMarked →
    ∀ name, column.typeName ≠ name ++ category.mark

theorem IsPlainlyNamed.not_imitates (plain : column.IsPlainlyNamed) : ¬column.Imitates other := by
  intro imitates
  cases imitates with
  | array scalar _ reads => exact plain.noUnderscore scalar _ reads
  | marked _ isMarked reads => exact plain.noMark _ isMarked _ reads
  | underscored name _ isMarked reads _ => exact plain.noMark _ isMarked name reads

/-- Two columns are declared alike if their types are the same or one imitates the other. -/
theorem declaredType_eq_iff :
    column.declaredType = other.declaredType ↔
      column.SameType other ∨ column.Imitates other ∨ other.Imitates column := by
  constructor
  · intro same
    rcases category_cases column with scalar | array | isMarked <;>
      rcases category_cases other with otherScalar | otherArray | otherMarked
    · rw [declaredType_of_scalar scalar, declaredType_of_scalar otherScalar] at same
      exact Or.inl ⟨scalar.trans otherScalar.symm, same⟩
    · rw [declaredType_of_scalar scalar, declaredType_of_array otherArray] at same
      exact Or.inr (Or.inl (.array scalar otherArray same))
    · rw [declaredType_of_scalar scalar, declaredType_of_isMarked otherMarked] at same
      exact Or.inr (Or.inl (.marked scalar otherMarked same))
    · rw [declaredType_of_array array, declaredType_of_scalar otherScalar] at same
      exact Or.inr (Or.inr (.array otherScalar array same.symm))
    · rw [declaredType_of_array array, declaredType_of_array otherArray,
        String.append_right_inj] at same
      exact Or.inl ⟨array.trans otherArray.symm, same⟩
    · rw [declaredType_of_array array, declaredType_of_isMarked otherMarked,
        ColumnCategory.underscore_append_eq_iff other.typeName_ne_empty] at same
      rcases same with ⟨name, reads, begins⟩
      exact Or.inr (Or.inl (.underscored name array otherMarked reads begins))
    · rw [declaredType_of_isMarked isMarked, declaredType_of_scalar otherScalar] at same
      exact Or.inr (Or.inr (.marked otherScalar isMarked same.symm))
    · rw [declaredType_of_isMarked isMarked, declaredType_of_array otherArray, eq_comm,
        ColumnCategory.underscore_append_eq_iff column.typeName_ne_empty] at same
      rcases same with ⟨name, reads, begins⟩
      exact Or.inr (Or.inr (.underscored name otherArray isMarked reads begins))
    · rw [declaredType_of_isMarked isMarked, declaredType_of_isMarked otherMarked,
        ColumnCategory.append_mark_eq_iff isMarked otherMarked] at same
      exact Or.inl same
  · rintro (sameType | imitates | imitated)
    · exact sameType.declaredType_eq
    · exact imitates.declaredType_eq
    · exact imitated.declaredType_eq.symm

section Reports

variable {declaration otherDeclaration : Declaration τ} {reported otherReported : ReportedColumn}

/-- An array that gave up the underscore in front of its type's name is declared with it. -/
theorem declaredType_of_reportedArray
    (made : column.IsMadeOf declaration reported) (array : reported.category = arrayCode)
    {name : String} (underscored : reported.typeName = "_" ++ name) :
    column.declaredType = reported.typeName := by
  have category := ReportedColumn.columnCategory_eq_array_iff.mpr array
  have nameEq : reported.columnTypeName = name := by
    rw [ReportedColumn.columnTypeName, if_pos category, underscored]
    simp [elementTypeName]
  rw [declaredType_of_array (made.category_eq.trans category), made.typeName_eq, nameEq,
    underscored]

theorem declaredType_of_reportedScalar
    (made : column.IsMadeOf declaration reported) (scalar : reported.columnCategory = .scalar) :
    column.declaredType = reported.typeName := by
  rw [declaredType_of_scalar (made.category_eq.trans scalar), made.typeName_eq,
    ReportedColumn.columnTypeName, if_neg (by simp [scalar])]

/-- A scalar imitates every array that is reported with the same name of its type. -/
theorem imitates_of_reportedAlike (made : column.IsMadeOf declaration reported)
    (otherMade : other.IsMadeOf otherDeclaration otherReported)
    (scalar : reported.columnCategory = .scalar) (array : otherReported.category = arrayCode)
    (alike : reported.typeName = otherReported.typeName) {name : String}
    (underscored : otherReported.typeName = "_" ++ name) : column.Imitates other := by
  have category := ReportedColumn.columnCategory_eq_array_iff.mpr array
  have declared := declaredType_of_reportedArray otherMade array underscored
  apply Imitates.array (made.category_eq.trans scalar) (otherMade.category_eq.trans category)
  rw [← declaredType_of_scalar (made.category_eq.trans scalar),
    ← declaredType_of_array (otherMade.category_eq.trans category), declared, ← alike]
  exact declaredType_of_reportedScalar made scalar

end Reports

end Column

/-- Whether some entity of a batch has a column under an identifier. -/
def Entities.HasColumn (batch : Entities τ) (listed : Identifier) (column : Column τ) : Prop :=
  ∃ owner entity, batch.get? owner = some entity ∧ entity.columns.get? listed = some column

theorem typeConflict?_eq_none_iff {batch : Entities τ} :
    typeConflict? batch = none ↔
      ∀ listed column other, batch.HasColumn listed column → batch.HasColumn listed other →
        column.declaredType = other.declaredType := by
  rw [typeConflict?, firstTypeConflict?_eq_none_iff]
  constructor
  · rintro agree listed column other ⟨_, _, member, occurs⟩ ⟨_, _, otherMember, otherOccurs⟩
    exact (agree listed _ (mem_columnOccurrences otherMember otherOccurs)).2 _
      (mem_columnOccurrences member occurs)
  · intro same listed declared mem
    refine ⟨by simp, ?_⟩
    intro otherDeclared otherMem
    rcases mem_columnOccurrences_iff.mp mem with ⟨owner, entity, column, member, occurs, rfl⟩
    rcases mem_columnOccurrences_iff.mp otherMem with
      ⟨otherOwner, otherEntity, other, otherMember, otherOccurs, rfl⟩
    exact same listed other column ⟨otherOwner, otherEntity, otherMember, otherOccurs⟩
      ⟨owner, entity, member, occurs⟩

/--
The check of a batch finds no conflict exactly if any two columns with one identifier are of the
same type or the one imitates the other.
-/
theorem typeConflict?_eq_none_iff_sameType_or_imitates (batch : Entities τ) :
    typeConflict? batch = none ↔
      ∀ listed column other, batch.HasColumn listed column → batch.HasColumn listed other →
        column.SameType other ∨ column.Imitates other ∨ other.Imitates column := by
  simp only [typeConflict?_eq_none_iff, Column.declaredType_eq_iff]

namespace Sample

/-- A table with tags of the type `_tag`, which are told to be an array or a scalar by a code. -/
def taggedTable (name code : String) (name_ne_empty : name ≠ "") :
    Except RecordError (Entity Empty) :=
  Entity.ofReport
    ⟨.table, [⟨"tags", "_tag", false, false, code, none, false, by decide, by decide⟩], []⟩
    ⟨name, inApp name name_ne_empty, .none, name_ne_empty⟩

/-- A table whose tags are an array of tags, and one whose tags are of a type of their own. -/
def taggedTables : Except RecordError (Entities Empty) := do
  let lists ← taggedTable "lists" arrayCode (by decide)
  let scalars ← taggedTable "scalars" "U" (by decide)
  pure (.ofList [(lists.identifier, lists), (scalars.identifier, scalars)])

example :
    taggedTables.map typeConflict? = .ok none ∧
      taggedTables.map (fun batch => batch.values.map fun table =>
        table.columns.values.map Column.category) = .ok [[.array], [.scalar]] := by
  decide +kernel

end Sample

/-- The check tells types apart whose names neither begin nor end like declared types. -/
theorem sameType_of_typeConflict?_eq_none {batch : Entities τ}
    (clear : typeConflict? batch = none)
    (plain : ∀ listed column, batch.HasColumn listed column → column.IsPlainlyNamed)
    {listed : Identifier} {column other : Column τ} (occurs : batch.HasColumn listed column)
    (otherOccurs : batch.HasColumn listed other) : column.SameType other := by
  have declaredAlike := typeConflict?_eq_none_iff.mp clear listed column other occurs otherOccurs
  rcases Column.declaredType_eq_iff.mp declaredAlike with same | imitates | imitated
  · exact same
  · exact absurd imitates (plain listed column occurs).not_imitates
  · exact absurd imitated (plain listed other otherOccurs).not_imitates

end EntityCatalog
