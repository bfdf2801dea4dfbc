import EntityCatalog.Proofs.Catalog.Satisfaction
import EntityCatalog.Proofs.Derivation

/-!
# What columns take

Around its base the validator of a column has a transform at most, then the absent value, then a
collection. What satisfies it is told by the column alone: the items of a list or tuple for an array
and the value itself otherwise, each of them absent where the column allows it, or else satisfying
the base behind the transform. These wrappers need three levels of evaluation and no more.
-/

namespace EntityCatalog.Column

variable {τ : Type}

/-- Whether an item is absent where the column allows it, or else passes a test. -/
def TakesItem (column : Column τ) (test : Value → Prop) (item : Value) : Prop :=
  item = .null ∧ column.notNull = false ∨ test item

/-- Whether a column takes a value: an array lists and tuples of items, any other one item. -/
def Takes (column : Column τ) (test : Value → Prop) (value : Value) : Prop :=
  if column.isArray then
    ∃ items, (value = .list items ∨ value = .tuple items) ∧
      ∀ item ∈ items, column.TakesItem test item
  else column.TakesItem test value

variable {column : Column τ} {test other : Value → Prop}

theorem takesItem_congr (same : ∀ item, test item ↔ other item) (item : Value) :
    column.TakesItem test item ↔ column.TakesItem other item :=
  or_congr_right (same item)

theorem takes_congr (same : ∀ item, test item ↔ other item) (value : Value) :
    column.Takes test value ↔ column.Takes other value := by
  simp only [Takes, takesItem_congr same]

theorem TakesItem.mono {item : Value} (takes : column.TakesItem test item)
    (weaker : ∀ item, test item → other item) : column.TakesItem other item :=
  takes.imp_right (weaker item)

theorem Takes.mono {value : Value} (takes : column.Takes test value)
    (weaker : ∀ item, test item → other item) : column.Takes other value := by
  unfold Takes at takes ⊢
  split at takes
  · next array =>
    rw [if_pos array]
    rcases takes with ⟨items, form, each⟩
    exact ⟨items, form, fun item mem => (each item mem).mono weaker⟩
  · next notArray =>
    rw [if_neg notArray]
    exact takes.mono weaker

theorem takes_iff_of_ne_null (notArray : column.isArray = false) {value : Value}
    (present : value ≠ .null) : column.Takes test value ↔ test value := by
  simp [Takes, TakesItem, notArray, present]

section Wrappers

variable [Transform τ] {catalog : Catalog τ} {validator : Validator τ} {value : Value}

theorem satisfies_wrapNullable_iff :
    catalog.Satisfies (column.wrapNullable validator) value ↔
      column.TakesItem (catalog.Satisfies validator) value := by
  unfold wrapNullable TakesItem
  split
  · next notNull => simp [notNull]
  · next nullable => simp [nullable, Catalog.satisfies_nullable_iff]

/-- What satisfies the wrapped base is what the column takes of what satisfies the base. -/
theorem satisfies_wrap_iff [DecidableEq τ] {registered : Entities τ} {base : Validator τ} :
    catalog.Satisfies (column.wrap registered base) value ↔
      column.Takes (catalog.Satisfies (column.wrapTransform registered base)) value := by
  unfold wrap wrapCollection Takes
  split
  · simp only [Catalog.satisfies_collection_iff, satisfies_wrapNullable_iff]
  · exact satisfies_wrapNullable_iff

end Wrappers

section Levels

variable {catalog : Catalog τ} {validator : Validator τ} {levels : Nat}

theorem fits_wrapNullable (fits : catalog.Fits levels validator) :
    catalog.Fits (levels + 1) (column.wrapNullable validator) := by
  unfold wrapNullable
  split
  · exact fits.succ
  · exact fits.nullable

theorem fits_wrapCollection (fits : catalog.Fits levels validator) :
    catalog.Fits (levels + 1) (column.wrapCollection validator) := by
  unfold wrapCollection
  split
  · exact fits.collection
  · exact fits.succ

theorem fits_wrapTransform [DecidableEq τ] (registered : Entities τ)
    (fits : catalog.Fits levels validator) :
    catalog.Fits (levels + 1) (column.wrapTransform registered validator) := by
  unfold wrapTransform
  split
  · split
    · exact fits.succ
    · exact fits.transformed _
  · exact fits.succ

theorem fits_wrap [DecidableEq τ] (registered : Entities τ)
    (fits : catalog.Fits levels validator) :
    catalog.Fits (levels + 3) (column.wrap registered validator) :=
  fits_wrapCollection (fits_wrapNullable (fits_wrapTransform registered fits))

end Levels

end EntityCatalog.Column
