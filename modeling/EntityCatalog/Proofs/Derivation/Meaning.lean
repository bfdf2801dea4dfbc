import EntityCatalog.Proofs.Catalog.Paths
import EntityCatalog.Proofs.Derivation.Acceptance

/-!
# What derived validators mean

A value passes the validator that is derived for a column if the column takes it: a list or tuple
of items for an array, one item otherwise. An item is absent where the column allows it, or else its
stored form passes the base. The stored form is the item itself if the column has no transform, or
refers to an enumeration that applies the same one, and what the transform makes of the item
otherwise. The evaluation of the validator needs three levels more than that of the base, so it may
run too deep where the other one does not; there is no other difference.
-/

namespace EntityCatalog

variable {τ : Type}

namespace Catalog

theorem fits_bounded {catalog : Catalog τ} (typeName : String) (bound : Quantity) :
    catalog.Fits 2 (.allOf [.base typeName, .maxLength bound]) := by
  apply Fits.allOf
  simp [fits_base typeName, fits_maxLength bound]

variable [Transform τ] {catalog : Catalog τ} {levels : Nat} {inner : Validator τ} {value : Value}
  {path : String}

theorem explainWithin_transformed_iff {transform : τ} :
    catalog.explainWithin (levels + 1) (.transformed inner transform) value path = .ok [] ↔
      ∃ stored, Transform.toStorage transform value = .ok stored ∧
        catalog.explainWithin levels inner stored path = .ok [] := by
  rw [explainWithin_succ, explainStep]
  split
  · next stored converted => simp [converted]
  · next kind message failed => simp [failed]
  · next rejection _ failed => simp [failed]

theorem explainWithin_nullable_iff :
    catalog.explainWithin (levels + 1) (.nullable inner) value path = .ok [] ↔
      value = .null ∨ catalog.explainWithin levels inner value path = .ok [] := by
  rw [explainWithin_succ, explainStep]
  split
  · next absent => simp [absent]
  · next present => simp [present]

theorem explainWithin_collection_iff :
    catalog.explainWithin (levels + 1) (.collection inner) value path = .ok [] ↔
      ∃ items, (value = .list items ∨ value = .tuple items) ∧
        ∀ item ∈ items, catalog.explainWithin levels inner item path = .ok [] := by
  -- The items have paths of their own, which make no difference.
  have each (items : List Value) :
      collectProblems (fun item : Value × Nat =>
        catalog.explainWithin levels inner item.1 (itemPath path item.2)) items.zipIdx = .ok [] ↔
      ∀ item ∈ items, catalog.explainWithin levels inner item path = .ok [] := by
    rw [collectProblems_eq_ok_nil_iff]
    constructor
    · intro clean item mem
      rcases List.mem_iff_getElem?.mp mem with ⟨position, found⟩
      have listed : (item, position) ∈ items.zipIdx := List.mem_zipIdx_iff_getElem?.mpr found
      exact (explainWithin_eq_ok_nil_iff_of_path _ _).mp (clean (item, position) listed)
    · intro clean item mem
      exact (explainWithin_eq_ok_nil_iff_of_path _ _).mp
        (clean item.1 (List.fst_mem_of_mem_zipIdx mem))
  rw [explainWithin_succ]
  simp only [explainStep]
  split
  · next items => simpa using each items
  · next items => simpa using each items
  · next notList notTuple => simp_all

end Catalog

namespace Column

variable {column : Column τ} {registered : Entities τ} {policy : TextPolicy}
  {labels : List String} {base : Validator τ}

/-- Whether a column refers to an enumeration with the column's transform. -/
def TransformIsApplied (registered : Entities τ) (column : Column τ) : Prop :=
  ∃ target enumeration, column.reference? registered = some target ∧
    registered.get? target = some enumeration ∧ enumeration.kind = .enumeration ∧
    enumeration.transform = column.transform

/-- What is stored for an item of a column. -/
inductive StoredAs [Transform τ] (registered : Entities τ) (column : Column τ) :
    Value → Value → Prop where
  | untransformed {item : Value} (none : column.transform = none) :
      StoredAs registered column item item
  | applied {item : Value} (applied : column.TransformIsApplied registered) :
      StoredAs registered column item item
  | converted {transform : τ} {item stored : Value} (has : column.transform = some transform)
      (notApplied : ¬column.TransformIsApplied registered)
      (converted : Transform.toStorage transform item = .ok stored) :
      StoredAs registered column item stored

/-- Whether a column takes a value if what is stored has to pass a test. -/
def TakesStored [Transform τ] (registered : Entities τ) (column : Column τ)
    (test : Value → Prop) : Value → Prop :=
  column.Takes fun item => ∃ stored, column.StoredAs registered item stored ∧ test stored

section Storage

variable [Transform τ] {item stored : Value}

theorem TakesStored.mono {test other : Value → Prop} {value : Value}
    (takes : column.TakesStored registered test value)
    (weaker : ∀ stored, test stored → other stored) :
    column.TakesStored registered other value :=
  Takes.mono takes fun _ ⟨stored, storedAs, passes⟩ => ⟨stored, storedAs, weaker stored passes⟩

theorem storedAs_of_untransformed (none : column.transform = none) :
    column.StoredAs registered item stored ↔ stored = item := by
  constructor
  · intro storedAs
    cases storedAs with
    | untransformed | applied => rfl
    | converted has =>
        rw [none] at has
        cases has
  · rintro rfl
    exact .untransformed none

theorem storedAs_of_applied (applied : column.TransformIsApplied registered) :
    column.StoredAs registered item stored ↔ stored = item := by
  constructor
  · intro storedAs
    cases storedAs with
    | untransformed | applied => rfl
    | converted _ notApplied => exact absurd applied notApplied
  · rintro rfl
    exact .applied applied

theorem storedAs_of_notApplied {transform : τ} (has : column.transform = some transform)
    (notApplied : ¬column.TransformIsApplied registered) :
    column.StoredAs registered item stored ↔ Transform.toStorage transform item = .ok stored := by
  constructor
  · intro storedAs
    cases storedAs with
    | untransformed none =>
        rw [has] at none
        cases none
    | applied applied => exact absurd applied notApplied
    | converted other _ converted =>
        rw [has, Option.some.injEq] at other
        exact other ▸ converted
  · exact .converted has notApplied

end Storage

section Base

variable (derived : column.baseValidator? registered policy labels = .ok (some base))

include derived

theorem appliesTransform_base_iff [DecidableEq τ] {transform : τ}
    (has : column.transform = some transform) :
    appliesTransform registered transform base = true ↔ column.TransformIsApplied registered := by
  have refers := mem_references_base_iff derived
  constructor
  · intro applies
    unfold appliesTransform at applies
    split at applies
    · next target =>
      split at applies
      · next enumeration member =>
        rw [Bool.and_eq_true, decide_eq_true_eq] at applies
        exact ⟨target, enumeration, (refers target).mp (by simp [Validator.references]), member,
          by simpa [Entity.isEnumeration] using applies.1, applies.2.trans has.symm⟩
      · cases applies
    · cases applies
  · rintro ⟨target, enumeration, found, member, kindEq, transformEq⟩
    rw [(isBase_of_baseValidator? derived).eq_reference ((refers target).mpr found)]
    simp [appliesTransform, member, Entity.isEnumeration, kindEq, transformEq, has]

variable [Transform τ] {catalog : Catalog τ}

/-- A base is wrapped exactly if items are converted before they are stored. -/
theorem wrapTransform_cases [DecidableEq τ] :
    (column.wrapTransform registered base = base ∧
      ∀ item stored, column.StoredAs registered item stored ↔ stored = item) ∨
    ∃ transform, column.wrapTransform registered base = .transformed base transform ∧
      ∀ item stored, column.StoredAs registered item stored ↔
        Transform.toStorage transform item = .ok stored := by
  unfold wrapTransform
  split
  · next transform has =>
    have applied := appliesTransform_base_iff derived has
    split
    · next applies =>
      exact Or.inl ⟨rfl, fun _ _ => storedAs_of_applied (applied.mp applies)⟩
    · next notApplied =>
      exact Or.inr ⟨transform, rfl, fun _ _ =>
        storedAs_of_notApplied has (applied.not.mp notApplied)⟩
  · next none => exact Or.inl ⟨rfl, fun _ _ => storedAs_of_untransformed none⟩

/-- What satisfies a base behind its transform is what is stored as something that satisfies it. -/
theorem satisfies_wrapTransform_iff [DecidableEq τ] {item : Value} :
    catalog.Satisfies (column.wrapTransform registered base) item ↔
      ∃ stored, column.StoredAs registered item stored ∧ catalog.Satisfies base stored := by
  rcases wrapTransform_cases derived with ⟨same, storedAs⟩ | ⟨transform, wrapped, storedAs⟩
  · simp only [same, storedAs, exists_eq_left]
  · simp only [wrapped, storedAs, Catalog.satisfies_transformed_iff]

theorem exists_storedAs_of_wrapTransform [DecidableEq τ] {levels : Nat} {item : Value}
    {path : String}
    (clean : catalog.explainWithin levels (column.wrapTransform registered base) item path =
      .ok []) :
    ∃ stored, column.StoredAs registered item stored ∧
      catalog.explainWithin levels base stored path = .ok [] := by
  rcases wrapTransform_cases derived with ⟨same, storedAs⟩ | ⟨transform, wrapped, storedAs⟩
  · rw [same] at clean
    exact ⟨item, (storedAs item item).mpr rfl, clean⟩
  · rw [wrapped] at clean
    rcases levels with _ | levels
    · cases clean
    · rcases Catalog.explainWithin_transformed_iff.mp clean with ⟨stored, converted, clean⟩
      exact ⟨stored, (storedAs item stored).mpr converted,
        Catalog.explainWithin_eq_ok_nil_of_le (Nat.le_succ levels) clean⟩

omit [Transform τ] in
/-- Only a reference leads an evaluation further than through the parts of a base. -/
theorem fits_base (refersToNothing : column.reference? registered = none) :
    catalog.Fits 2 base := by
  have isBase := isBase_of_baseValidator? derived
  cases isBase with
  | reference target =>
      have found := (mem_references_base_iff derived target).mp (by simp [Validator.references])
      rw [refersToNothing] at found
      cases found
  | base typeName => exact Catalog.fits_base typeName
  | bounded typeName bound => exact Catalog.fits_bounded typeName bound
  | labels labels => exact Catalog.fits_oneOf labels

end Base

section Text

variable [Transform τ] {catalog : Catalog τ} {typeName : String} {value : Value}

theorem satisfies_text_iff (text : BaseType.ofName? typeName = some .text) :
    catalog.Satisfies (.base typeName) value ↔ ∃ content, value = .text content := by
  rw [Catalog.satisfies_base_iff text]
  cases value with
  | scalar scalar => cases scalar <;> simp [BaseType.accepts, Value.text]
  | _ => simp [BaseType.accepts, Value.text]

theorem satisfies_boundedText_iff (text : BaseType.ofName? typeName = some .text)
    {bound : Quantity} :
    catalog.Satisfies (.allOf [.base typeName, .maxLength bound]) value ↔
      ∃ content, value = .text content ∧ bound.Allows (Text.length content) := by
  rw [Catalog.satisfies_allOf_iff]
  simp only [List.mem_cons, List.not_mem_nil, or_false, forall_eq_or_imp, forall_eq,
    satisfies_text_iff text, Catalog.satisfies_maxLength_iff]
  constructor
  · exact And.right
  · rintro ⟨content, rfl, allowed⟩
    exact ⟨⟨content, rfl⟩, content, rfl, allowed⟩

end Text

section Absent

variable [DecidableEq τ] [Transform τ] (catalog : Catalog τ)

/-- Whether an item is absent is asked before anything inside of the validator is evaluated. -/
theorem explainStep_null_of_nullable (notArray : column.isArray = false)
    (nullable : column.notNull = false) (registered : Entities τ) (base : Validator τ)
    (explain : Validator τ → Value → String → Evaluation (List Problem)) (path : String) :
    catalog.explainStep explain (column.wrap registered base) .null path = .ok [] := by
  simp [wrap, wrapCollection, wrapNullable, notArray, nullable, Catalog.explainStep]

theorem conforms_null_of_isArray (array : column.isArray = true) (registered : Entities τ)
    (base : Validator τ) : catalog.conforms (column.wrap registered base) .null = .ok false := by
  rw [wrap, wrapCollection, if_pos array]
  rfl

end Absent

section Within

variable [Transform τ] {catalog : Catalog τ} {validator : Validator τ} {levels : Nat}
  {value : Value} {path : String}

theorem takesItem_of_wrapNullable
    (clean : catalog.explainWithin levels (column.wrapNullable validator) value path = .ok []) :
    column.TakesItem
      (fun item => catalog.explainWithin levels validator item path = .ok []) value := by
  unfold wrapNullable at clean
  split at clean
  · exact Or.inr clean
  · next nullable =>
    rcases levels with _ | levels
    · cases clean
    · rcases Catalog.explainWithin_nullable_iff.mp clean with absent | present
      · exact Or.inl ⟨absent, by simpa using nullable⟩
      · exact Or.inr (Catalog.explainWithin_eq_ok_nil_of_le (Nat.le_succ levels) present)

/-- What passes the wrapped base within some levels is stored as what passes the base in them. -/
theorem takesStored_of_wrap [DecidableEq τ]
    (derived : column.baseValidator? registered policy labels = .ok (some base))
    (clean : catalog.explainWithin levels (column.wrap registered base) value path = .ok []) :
    column.TakesStored registered
      (fun stored => catalog.explainWithin levels base stored path = .ok []) value := by
  have takesItem {item : Value}
      (clean : catalog.explainWithin levels
        (column.wrapNullable (column.wrapTransform registered base)) item path = .ok []) :=
    (takesItem_of_wrapNullable clean).mono fun _ => exists_storedAs_of_wrapTransform derived
  unfold wrap wrapCollection at clean
  unfold TakesStored Takes
  split at clean
  · next array =>
    rw [if_pos array]
    rcases levels with _ | levels
    · cases clean
    · rcases Catalog.explainWithin_collection_iff.mp clean with ⟨items, form, each⟩
      refine ⟨items, form, fun item mem => takesItem ?_⟩
      exact Catalog.explainWithin_eq_ok_nil_of_le (Nat.le_succ levels) (each item mem)
  · next notArray =>
    rw [if_neg notArray]
    exact takesItem clean

end Within

/-- What a validator with a base means for a column, with the declarations of a catalog. -/
structure Meaning [Transform τ] (registered : Entities τ) (policy : TextPolicy) (column : Column τ)
    (base validator : Validator τ) (catalog : Catalog τ) : Prop where
  /-- The values that conform are those that the column takes, if no evaluation runs too deep. -/
  conforms_iff : ∀ value, catalog.conforms validator value = .ok true ↔
    column.TakesStored registered (fun stored => catalog.conforms base stored = .ok true) value ∧
      catalog.conforms validator value ≠ .error .tooDeep
  /-- Given levels enough none does. -/
  accepts_iff : ∀ value, catalog.Accepts validator value ↔
    column.TakesStored registered (catalog.Accepts base) value
  /-- The levels are enough if they are for the base and the three wrappers. -/
  conforms_ne_tooDeep : ∀ levels, catalog.Fits levels base →
    levels + 3 ≤ Catalog.greatestDepth → ∀ value,
      catalog.conforms validator value ≠ .error .tooDeep
  /-- Every base but a reference needs two levels at most. -/
  fits : column.reference? registered = none → catalog.Fits 2 base
  text : ∀ typeName, BaseType.ofName? typeName = some .text → base = .base typeName →
    ∀ stored, catalog.conforms base stored = .ok true ↔ ∃ content, stored = .text content
  /-- The greatest length is what the modifier is above the margin. -/
  boundedText : ∀ typeName bound, BaseType.ofName? typeName = some .text →
    base = .allOf [.base typeName, .maxLength bound] →
      column.modifier.minus? policy.margin = .ok bound ∧
        ∀ stored, catalog.conforms base stored = .ok true ↔
          ∃ content, stored = .text content ∧ bound.Allows (Text.length content)
  /-- The absent value has no problems whatever is inside of the validator. -/
  absent_of_nullable : column.isArray = false → column.notNull = false →
    catalog.conforms validator .null = .ok true ∧
      ∀ explain path, catalog.explainStep explain validator .null path = .ok []
  absent_of_array : column.isArray = true → catalog.conforms validator .null = .ok false

section Derived

variable [DecidableEq τ] [Transform τ] {validator : Validator τ} {catalog : Catalog τ}

theorem accepts_wrap_iff
    (derived : column.baseValidator? registered policy labels = .ok (some base)) {value : Value} :
    catalog.Accepts (column.wrap registered base) value ↔
      column.TakesStored registered (catalog.Accepts base) value := by
  simp only [Catalog.accepts_iff_satisfies, satisfies_wrap_iff, TakesStored]
  exact takes_congr (fun item => satisfies_wrapTransform_iff derived) value

theorem meaning_wrap
    (derived : column.baseValidator? registered policy labels = .ok (some base)) :
    column.Meaning registered policy base (column.wrap registered base) catalog where
  conforms_iff value := by
    constructor
    · intro conforms
      refine ⟨?_, by simp [conforms]⟩
      rw [Catalog.conforms_eq_ok_true_iff] at conforms
      exact (takesStored_of_wrap derived conforms).mono
        fun stored clean => Catalog.conforms_eq_ok_true_iff.mpr clean
    · rintro ⟨takes, settled⟩
      rw [Catalog.conforms_iff_accepts, accepts_wrap_iff derived, and_iff_left settled]
      exact takes.mono fun stored conforms => (Catalog.conforms_iff_accepts.mp conforms).1
  accepts_iff _ := accepts_wrap_iff derived
  conforms_ne_tooDeep levels fits enough value :=
    (fits_wrap registered fits).conforms_ne_tooDeep enough value
  fits := fits_base derived
  text typeName text baseEq stored := by
    subst baseEq
    have fits : catalog.Fits 1 (.base typeName) := Catalog.fits_base typeName
    rw [fits.conforms_iff_accepts (by decide), Catalog.accepts_iff_satisfies,
      satisfies_text_iff text]
  boundedText typeName bound text baseEq := by
    subst baseEq
    refine ⟨bound_of_baseValidator? derived, fun stored => ?_⟩
    rw [(Catalog.fits_bounded typeName bound).conforms_iff_accepts (by decide),
      Catalog.accepts_iff_satisfies, satisfies_boundedText_iff text]
  absent_of_nullable notArray nullable := by
    have clean := explainStep_null_of_nullable catalog notArray nullable registered base
    refine ⟨?_, clean⟩
    rw [Catalog.conforms_eq_ok_true_iff, Catalog.explain, Catalog.greatestDepth,
      Catalog.explainWithin_succ]
    exact clean _ _
  absent_of_array array := conforms_null_of_isArray catalog array registered base

end Derived

end Column

namespace Sample

/-- A transform that stores grades in words. -/
inductive Grading where
  | inWords
deriving DecidableEq

instance : Transform Grading where
  name _ := "grades in words"
  toStorage _ grade :=
    if grade = .text "A" then .ok (.text "very good")
    else if grade = .text "B" then .ok (.text "good")
    else .error (.refused "no grade")
  fromStorage _ words :=
    if words = .text "very good" then .ok (.text "A")
    else if words = .text "good" then .ok (.text "B")
    else .error (.refused "no grade in words")

/-- A grade, which may be absent, stored as a text of at most four characters. -/
def grade : Column Grading where
  identifier := ⟨"school", "grade", by decide, by decide, by decide⟩
  name := "grade"
  typeName := "varchar"
  category := .scalar
  notNull := false
  isEnumeration := false
  hasDefault := false
  modifier := .whole 8
  elementType := none
  transform := some .inWords
  name_ne_empty := by decide
  typeName_ne_empty := by decide

/-- The base of the grade's validator. -/
def shortText : Validator Grading := .allOf [.base "varchar", .maxLength (.whole 4)]

end Sample

/-- Every derived validator has a base with which it means what the column takes. -/
theorem Column.exists_meaning_of_validator? [DecidableEq τ] [Transform τ] {registered : Entities τ}
    {policy : TextPolicy} {labels : List String} {column : Column τ} {validator : Validator τ}
    (derived : column.validator? registered policy labels = .ok (some validator)) :
    ∃ base, column.baseValidator? registered policy labels = .ok (some base) ∧
      ∀ catalog : Catalog τ, column.Meaning registered policy base validator catalog := by
  rcases exists_base_of_validator? derived with ⟨base, baseDerived, _, rfl⟩
  exact ⟨base, baseDerived, fun _ => meaning_wrap baseDerived⟩

/-- A grade is taken if the word for it is short enough; the word itself is no grade. -/
theorem Sample.conforms_of_grade :
    ∃ validator, grade.validator? .empty .standard [] = .ok (some validator) ∧
      ∀ catalog : Catalog Grading,
        catalog.conforms validator (.text "B") = .ok true ∧
        catalog.conforms validator (.text "A") ≠ .ok true ∧
        catalog.conforms validator (.text "good") ≠ .ok true ∧
        catalog.conforms validator .null = .ok true := by
  have derived : grade.validator? .empty .standard [] =
      .ok (some (grade.wrap .empty shortText)) := by rfl
  refine ⟨_, derived, ?_⟩
  intro catalog
  rcases Column.exists_meaning_of_validator? derived with ⟨base, baseDerived, meaning⟩
  have baseEq : base = shortText := by
    have bases : grade.baseValidator? .empty .standard [] = .ok (some shortText) := by rfl
    rw [bases] at baseDerived
    cases baseDerived
    rfl
  subst baseEq
  have refersToNothing : grade.reference? .empty = none := by rfl
  have notApplied : ¬grade.TransformIsApplied .empty := by
    rintro ⟨_, _, refers, _⟩
    rw [refersToNothing] at refers
    cases refers
  have meaning := meaning catalog
  have settled := meaning.conforms_ne_tooDeep 2 (meaning.fits refersToNothing) (by decide)
  have short := (meaning.boundedText "varchar" (.whole 4) (by decide) rfl).2
  have takesGrade {value : Value} (present : value ≠ .null) :
      catalog.conforms (grade.wrap .empty shortText) value = .ok true ↔
        ∃ content, Transform.toStorage Grading.inWords value = .ok (.text content) ∧
          Text.length content ≤ (4 : Int) := by
    rw [meaning.conforms_iff, and_iff_left (settled value), Column.TakesStored,
      Column.takes_iff_of_ne_null rfl present]
    simp only [Column.storedAs_of_notApplied rfl notApplied, short, Quantity.Allows]
    constructor
    · rintro ⟨_, converted, content, rfl, allowed⟩
      exact ⟨content, converted, allowed⟩
    · rintro ⟨content, converted, allowed⟩
      exact ⟨_, converted, content, rfl, allowed⟩
  refine ⟨?_, ?_, ?_, (meaning.absent_of_nullable rfl rfl).1⟩
  · rw [takesGrade (by decide)]
    exact ⟨"good", by decide, by decide⟩
  · rw [Ne, takesGrade (by decide)]
    rintro ⟨content, converted, allowed⟩
    have contentEq : content = "very good" := by
      cases converted
      rfl
    rw [contentEq] at allowed
    exact absurd allowed (by decide)
  · rw [Ne, takesGrade (by decide)]
    rintro ⟨content, converted, _⟩
    cases converted

end EntityCatalog
