import EntityCatalog.Proofs.Catalog.Entries
import EntityCatalog.Proofs.Catalog.Failure
import EntityCatalog.Proofs.Number.Comparison

/-!
# Satisfaction

What it means that a value satisfies a validator, said by one rule or two for each form of
validators and without any evaluation or look-up: a derivation follows references through the
entries of a catalog, goes behind transforms, and descends into collections and into the entries of
rows. Evaluation decides satisfaction. Given levels enough, it finds no problems exactly in the
values that satisfy the validator; within the levels that it has, it does the same or runs too deep.
-/

namespace EntityCatalog

variable {τ : Type}

/-- Whether a length is at most a limit; what is held for an integer is compared as it is. -/
def Quantity.Allows : Quantity → Nat → Prop
  | .whole limit, length => (length : Int) ≤ limit
  | .held value source, length => (whole length).exceeds? (.held value source) = .ok false

theorem Quantity.exceeds?_eq_ok_false_iff {limit : Quantity} {length : Nat} :
    (Quantity.whole length).exceeds? limit = .ok false ↔ limit.Allows length := by
  cases limit with
  | whole limit =>
      rw [exceeds?_whole, Except.ok.injEq, decide_eq_false_iff_not, Int.not_lt]
      rfl
  | held value source => rfl

theorem isLabel_iff {labels : List String} {value : Value} :
    isLabel labels value = true ↔ ∃ label ∈ labels, value = .text label := by
  unfold isLabel
  split
  · simp [eq_comm]
  · next notText => simp_all

theorem problemUnless_eq_nil_iff {holds : Bool} {path : String} {reason : Reason} :
    problemUnless holds path reason = [] ↔ holds = true := by
  cases holds <;> simp [problemUnless]

theorem missingKeys_eq_nil_iff {path : String} {entries : List (Value × Value)}
    {required : List Identifier} :
    missingKeys path entries required = [] ↔
      ∀ key ∈ required, ∃ entry ∈ entries, entry.1.Names key := by
  simp [missingKeys, List.filter_eq_nil_iff, Option.ne_none_iff_exists', exists_rowItem?_iff]

theorem lengthProblems_eq_ok_nil_iff {path : String} {limit : Quantity} {value : Value} :
    lengthProblems path limit value = .ok [] ↔
      ∃ content, value = .text content ∧ limit.Allows (Text.length content) := by
  unfold lengthProblems
  split
  · next content =>
    have onlyContent : (∃ other, Value.text content = .text other ∧
        limit.Allows (Text.length other)) ↔ limit.Allows (Text.length content) := by
      simp
    rw [onlyContent, ← Quantity.exceeds?_eq_ok_false_iff]
    split
    · next exceeded answered =>
      rw [answered]
      simp [problemUnless_eq_nil_iff]
    · next fault failed =>
      rw [failed]
      simp
  · next notText => simp_all

namespace Catalog

section Declares

variable {catalog : Catalog τ} {identifier : Identifier} {declaration : Validator τ}

/-- Whether a validator is declared for an identifier; an absent value in its place is none. -/
def Declares (catalog : Catalog τ) (identifier : Identifier) (declaration : Validator τ) : Prop :=
  (identifier, declaration) ∈ catalog.declarations.entries ∧ declaration ≠ .foreign .null

theorem declared?_eq_some_iff :
    catalog.declared? identifier = some declaration ↔
      catalog.Declares identifier declaration := by
  rw [Declares, ← OrderedMap.get?_eq_some_iff_mem]
  constructor
  · intro declared
    refine ⟨find?_of_declared? declared, ?_⟩
    rintro rfl
    unfold declared? at declared
    split at declared
    · cases declared
    · next notAbsent => exact notAbsent declared
  · rintro ⟨found, notAbsent⟩
    exact declared?_of_find? found notAbsent

end Declares

variable [Transform τ]

/-- Whether a value satisfies a validator, with the declarations of a catalog. -/
inductive Satisfies (catalog : Catalog τ) : Validator τ → Value → Prop where
  | base {typeName : String} {baseType : BaseType} {value : Value}
      (known : BaseType.ofName? typeName = some baseType)
      (accepted : baseType.accepts value = true) :
      Satisfies catalog (.base typeName) value
  | reference {target : Identifier} {declaration : Validator τ} {value : Value}
      (declares : catalog.Declares target declaration)
      (satisfied : Satisfies catalog declaration value) :
      Satisfies catalog (.reference target) value
  | oneOf {labels : List String} {label : String} (mem : label ∈ labels) :
      Satisfies catalog (.oneOf labels) (.text label)
  | maxLength {limit : Quantity} {content : String}
      (allowed : limit.Allows (Text.length content)) :
      Satisfies catalog (.maxLength limit) (.text content)
  | allOf {parts : List (Validator τ)} {value : Value}
      (each : ∀ part ∈ parts, Satisfies catalog part value) :
      Satisfies catalog (.allOf parts) value
  | transformed {inner : Validator τ} {transform : τ} {value stored : Value}
      (converted : Transform.toStorage transform value = .ok stored)
      (satisfied : Satisfies catalog inner stored) :
      Satisfies catalog (.transformed inner transform) value
  | absent (inner : Validator τ) : Satisfies catalog (.nullable inner) .null
  | present {inner : Validator τ} {value : Value} (satisfied : Satisfies catalog inner value) :
      Satisfies catalog (.nullable inner) value
  | list {inner : Validator τ} {items : List Value}
      (each : ∀ item ∈ items, Satisfies catalog inner item) :
      Satisfies catalog (.collection inner) (.list items)
  | tuple {inner : Validator τ} {items : List Value}
      (each : ∀ item ∈ items, Satisfies catalog inner item) :
      Satisfies catalog (.collection inner) (.tuple items)
  | keys {required optional : List Identifier} {entries : List (Value × Value)}
      (complete : ∀ key ∈ required, ∃ entry ∈ entries, entry.1.Names key)
      (each : ∀ key ∈ required ++ optional, ∀ item declaration,
        Value.IsItemOf entries key item → catalog.Declares key declaration →
          Satisfies catalog declaration item) :
      Satisfies catalog (.keys required optional) (.mapping entries)

variable {catalog : Catalog τ} {validator : Validator τ} {value : Value} {path : String}

section Forms

variable {inner : Validator τ}

theorem satisfies_base_iff {typeName : String} {baseType : BaseType}
    (known : BaseType.ofName? typeName = some baseType) :
    catalog.Satisfies (.base typeName) value ↔ baseType.accepts value = true := by
  constructor
  · intro satisfies
    cases satisfies with
    | base found accepted =>
        rw [known, Option.some.injEq] at found
        exact found ▸ accepted
  · exact .base known

theorem satisfies_maxLength_iff {limit : Quantity} :
    catalog.Satisfies (.maxLength limit) value ↔
      ∃ content, value = .text content ∧ limit.Allows (Text.length content) := by
  constructor
  · intro satisfies
    cases satisfies with
    | maxLength allowed => exact ⟨_, rfl, allowed⟩
  · rintro ⟨content, rfl, allowed⟩
    exact .maxLength allowed

theorem satisfies_allOf_iff {parts : List (Validator τ)} :
    catalog.Satisfies (.allOf parts) value ↔ ∀ part ∈ parts, catalog.Satisfies part value := by
  constructor
  · intro satisfies
    cases satisfies with
    | allOf each => exact each
  · exact .allOf

theorem satisfies_reference_iff {target : Identifier} {declaration : Validator τ}
    (declared : catalog.declared? target = some declaration) :
    catalog.Satisfies (.reference target) value ↔ catalog.Satisfies declaration value := by
  constructor
  · intro satisfies
    cases satisfies with
    | reference declares satisfied =>
        rw [← declared?_eq_some_iff, declared, Option.some.injEq] at declares
        exact declares ▸ satisfied
  · exact .reference (declared?_eq_some_iff.mp declared)

theorem satisfies_oneOf_iff {labels : List String} :
    catalog.Satisfies (.oneOf labels) value ↔ ∃ label ∈ labels, value = .text label := by
  constructor
  · intro satisfies
    cases satisfies with
    | oneOf mem => exact ⟨_, mem, rfl⟩
  · rintro ⟨label, mem, rfl⟩
    exact .oneOf mem

theorem satisfies_transformed_iff {transform : τ} :
    catalog.Satisfies (.transformed inner transform) value ↔
      ∃ stored, Transform.toStorage transform value = .ok stored ∧
        catalog.Satisfies inner stored := by
  constructor
  · intro satisfies
    cases satisfies with
    | transformed converted satisfied => exact ⟨_, converted, satisfied⟩
  · rintro ⟨stored, converted, satisfied⟩
    exact .transformed converted satisfied

theorem satisfies_nullable_iff :
    catalog.Satisfies (.nullable inner) value ↔ value = .null ∨ catalog.Satisfies inner value := by
  constructor
  · intro satisfies
    cases satisfies with
    | absent => exact Or.inl rfl
    | present satisfied => exact Or.inr satisfied
  · rintro (rfl | satisfied)
    · exact .absent inner
    · exact .present satisfied

theorem satisfies_collection_iff :
    catalog.Satisfies (.collection inner) value ↔
      ∃ items, (value = .list items ∨ value = .tuple items) ∧
        ∀ item ∈ items, catalog.Satisfies inner item := by
  constructor
  · intro satisfies
    cases satisfies with
    | list each => exact ⟨_, Or.inl rfl, each⟩
    | tuple each => exact ⟨_, Or.inr rfl, each⟩
  · rintro ⟨items, rfl | rfl, each⟩
    · exact .list each
    · exact .tuple each

end Forms

section Soundness

variable {explain : Validator τ → Value → String → Evaluation (List Problem)}

omit [Transform τ] in
/-- The entry of a key has no problems if there is nothing to check or if it is checked and fine. -/
theorem explainEntry_eq_ok_nil_iff {entries : List (Value × Value)} {key : Identifier} :
    catalog.explainEntry explain entries path key = .ok [] ↔
      ∀ item declaration, rowItem? entries key = some item →
        catalog.declared? key = some declaration →
          explain declaration item (entryPath path key) = .ok [] := by
  unfold explainEntry
  split
  · next item declaration itemFound found => simp [itemFound, found]
  · next none =>
    simp only [true_iff]
    intro item declaration itemFound found
    exact absurd found (none item declaration itemFound)

/-- A level that finds no problems is right about it if the next one is. -/
theorem satisfies_of_explainStep
    (sound : ∀ {validator value path}, explain validator value path = .ok [] →
      catalog.Satisfies validator value)
    (clean : catalog.explainStep explain validator value path = .ok []) :
    catalog.Satisfies validator value := by
  cases validator with
  | base typeName =>
      simp only [explainStep] at clean
      split at clean
      · cases clean
      · next baseType known =>
        rw [Except.ok.injEq, problemUnless_eq_nil_iff] at clean
        exact .base known clean
  | reference target =>
      simp only [explainStep] at clean
      split at clean
      · cases clean
      · next declaration declared =>
        exact .reference (declared?_eq_some_iff.mp declared) (sound clean)
  | oneOf labels =>
      rw [explainStep, Except.ok.injEq, problemUnless_eq_nil_iff, isLabel_iff] at clean
      rcases clean with ⟨label, mem, rfl⟩
      exact .oneOf mem
  | maxLength limit =>
      rw [explainStep, lengthProblems_eq_ok_nil_iff] at clean
      rcases clean with ⟨content, rfl, allowed⟩
      exact .maxLength allowed
  | allOf parts =>
      rw [explainStep, firstProblems_eq_ok_nil_iff] at clean
      exact .allOf fun part mem => sound (clean part mem)
  | transformed inner transform =>
      simp only [explainStep] at clean
      split at clean
      · next stored converted => exact .transformed converted (sound clean)
      · cases clean
      · cases clean
  | nullable inner =>
      simp only [explainStep] at clean
      split at clean
      · next absent =>
        rw [absent]
        exact .absent inner
      · exact .present (sound clean)
  | collection inner =>
      have itemsSound {items : List Value} (clean : collectProblems (fun item : Value × Nat =>
          explain inner item.1 (itemPath path item.2)) items.zipIdx = .ok []) :
          ∀ item ∈ items, catalog.Satisfies inner item := by
        intro item mem
        rcases List.mem_iff_getElem?.mp mem with ⟨position, found⟩
        have listed : (item, position) ∈ items.zipIdx := List.mem_zipIdx_iff_getElem?.mpr found
        exact sound (collectProblems_eq_ok_nil_iff.mp clean (item, position) listed)
      simp only [explainStep] at clean
      split at clean
      · exact .list (itemsSound clean)
      · exact .tuple (itemsSound clean)
      · cases clean
  | keys required optional =>
      simp only [explainStep] at clean
      split at clean
      · next entries =>
        rcases bind_eq_ok_iff.mp clean with ⟨problems, collected, joined⟩
        rw [Except.ok.injEq, List.append_eq_nil_iff, missingKeys_eq_nil_iff] at joined
        rcases joined with ⟨complete, rfl⟩
        rw [collectProblems_eq_ok_nil_iff] at collected
        refine .keys complete fun key mem item declaration isItem declares => ?_
        exact sound (explainEntry_eq_ok_nil_iff.mp (collected key mem) item declaration
          (rowItem?_eq_some_iff.mpr isItem) (declared?_eq_some_iff.mpr declares))
      · cases clean
  | foreign foreign => cases clean

/-- Evaluation finds no problems in values that satisfy the validator only. -/
theorem satisfies_of_explainWithin {levels : Nat}
    (clean : catalog.explainWithin levels validator value path = .ok []) :
    catalog.Satisfies validator value := by
  induction levels generalizing validator value path with
  | zero => cases clean
  | succ levels ih =>
      rw [explainWithin_succ] at clean
      exact satisfies_of_explainStep ih clean

end Soundness

section Completeness

theorem explainWithin_eq_ok_nil_of_le {levels more : Nat} (le : levels ≤ more)
    (clean : catalog.explainWithin levels validator value path = .ok []) :
    catalog.explainWithin more validator value path = .ok [] := by
  rw [explainWithin_of_le le (by simp [clean]), clean]

/-- The items of a collection have no problems if each has none within some levels of its own. -/
theorem exists_collectProblems_eq_ok_nil {items : List Value}
    (each : ∀ item ∈ items, ∀ path, ∃ levels,
      catalog.explainWithin levels validator item path = .ok []) (path : String) :
    ∃ levels, collectProblems (fun item : Value × Nat =>
      catalog.explainWithin levels validator item.1 (itemPath path item.2)) items.zipIdx =
        .ok [] := by
  have listed : ∀ item ∈ items.zipIdx, ∃ levels,
      catalog.explainWithin levels validator item.1 (itemPath path item.2) = .ok [] :=
    fun item mem => each item.1 (List.fst_mem_of_mem_zipIdx mem) _
  rcases exists_common_levels (fun le clean => by rw [explainWithin_eq_ok_nil_of_le le clean])
    listed with ⟨levels, clean⟩
  exact ⟨levels, collectProblems_eq_ok_nil_iff.mpr clean⟩

/--
Evaluation finds no problems in a value that satisfies the validator, if it has levels enough. The
induction is on the derivation; the levels of several premises are brought to a common number.
-/
theorem Satisfies.exists_explainWithin (satisfies : catalog.Satisfies validator value)
    (path : String) : ∃ levels, catalog.explainWithin levels validator value path = .ok [] := by
  induction satisfies generalizing path with
  | base known accepted =>
      refine ⟨1, ?_⟩
      simp [explainWithin_succ, explainStep, known, accepted, problemUnless]
  | reference declares satisfied ih =>
      rcases ih path with ⟨levels, clean⟩
      refine ⟨levels + 1, ?_⟩
      simpa [explainWithin_succ, explainStep, declared?_eq_some_iff.mpr declares] using clean
  | oneOf mem =>
      refine ⟨1, ?_⟩
      rw [explainWithin_succ, explainStep, Except.ok.injEq, problemUnless_eq_nil_iff, isLabel_iff]
      exact ⟨_, mem, rfl⟩
  | maxLength allowed =>
      refine ⟨1, ?_⟩
      rw [explainWithin_succ, explainStep, lengthProblems_eq_ok_nil_iff]
      exact ⟨_, rfl, allowed⟩
  | allOf each ih =>
      have partsClean := fun part mem => ih part mem path
      rcases exists_common_levels (fun le clean => by rw [explainWithin_eq_ok_nil_of_le le clean])
        partsClean with ⟨levels, clean⟩
      refine ⟨levels + 1, ?_⟩
      rw [explainWithin_succ, explainStep, firstProblems_eq_ok_nil_iff]
      exact clean
  | transformed converted satisfied ih =>
      rcases ih path with ⟨levels, clean⟩
      refine ⟨levels + 1, ?_⟩
      simpa [explainWithin_succ, explainStep, converted] using clean
  | absent inner =>
      refine ⟨1, ?_⟩
      simp [explainWithin_succ, explainStep]
  | @present inner value satisfied ih =>
      rcases ih path with ⟨levels, clean⟩
      refine ⟨levels + 1, ?_⟩
      by_cases absent : value = .null
      · simp [explainWithin_succ, explainStep, absent]
      · simpa [explainWithin_succ, explainStep, absent] using clean
  | list each ih =>
      rcases exists_collectProblems_eq_ok_nil ih path with ⟨levels, clean⟩
      exact ⟨levels + 1, clean⟩
  | tuple each ih =>
      rcases exists_collectProblems_eq_ok_nil ih path with ⟨levels, clean⟩
      exact ⟨levels + 1, clean⟩
  | @keys required optional entries complete each ih =>
      have entryClean : ∀ key ∈ Validator.allKeys required optional, ∃ levels,
          catalog.explainEntry (catalog.explainWithin levels) entries path key = .ok [] := by
        intro key mem
        rcases itemFound : rowItem? entries key with _ | item
        · exact ⟨0, explainEntry_eq_ok_nil_iff.mpr (by simp [itemFound])⟩
        · rcases found : catalog.declared? key with _ | declaration
          · exact ⟨0, explainEntry_eq_ok_nil_iff.mpr (by simp [found])⟩
          · have isItem := rowItem?_eq_some_iff.mp itemFound
            have declares := declared?_eq_some_iff.mp found
            rcases ih key mem item declaration isItem declares (entryPath path key) with
              ⟨levels, clean⟩
            exact ⟨levels, explainEntry_eq_ok_nil_iff.mpr (by simp [itemFound, found, clean])⟩
      rcases exists_common_levels
        (fun le clean => by rw [explainEntry_of_le le (by simp [clean]), clean]) entryClean with
        ⟨levels, clean⟩
      refine ⟨levels + 1, ?_⟩
      have collected := collectProblems_eq_ok_nil_iff.mpr clean
      have noneMissing : missingKeys path entries required = [] :=
        missingKeys_eq_nil_iff.mpr complete
      simp [explainWithin_succ, explainStep, collected, noneMissing, bind, Except.bind]

end Completeness

section Decision

theorem exists_explainWithin_iff :
    (∃ levels, catalog.explainWithin levels validator value path = .ok []) ↔
      catalog.Satisfies validator value :=
  ⟨fun ⟨_, clean⟩ => satisfies_of_explainWithin clean, fun satisfies =>
    satisfies.exists_explainWithin path⟩

/-- An evaluation that does not run too deep finds no problems if there are none to be found. -/
theorem explain_eq_ok_nil_iff :
    catalog.explain validator value path = .ok [] ↔
      catalog.Satisfies validator value ∧
        catalog.explain validator value path ≠ .error .tooDeep := by
  constructor
  · intro clean
    exact ⟨satisfies_of_explainWithin clean, by simp [clean]⟩
  · rintro ⟨satisfies, settled⟩
    rcases satisfies.exists_explainWithin path with ⟨levels, clean⟩
    -- The levels of the derivation may be fewer or more than those that evaluation has.
    rcases Nat.le_total levels greatestDepth with fewer | more
    · exact explainWithin_eq_ok_nil_of_le fewer clean
    · rw [explain, ← explainWithin_of_le more settled, clean]

/-- Where the levels are always enough, evaluation as it is decides satisfaction. -/
theorem Fits.explain_eq_ok_nil_iff {levels : Nat} (fits : catalog.Fits levels validator)
    (enough : levels ≤ greatestDepth) :
    catalog.explain validator value path = .ok [] ↔ catalog.Satisfies validator value := by
  have settled : catalog.explain validator value path ≠ .error .tooDeep := by
    have withinLevels := fits.explainWithin_ne_tooDeep value path
    rwa [explain, explainWithin_of_le enough withinLevels]
  rw [Catalog.explain_eq_ok_nil_iff, and_iff_left settled]

/-- Whether an evaluation with levels enough finds no problems in a value. -/
def Accepts (catalog : Catalog τ) (validator : Validator τ) (value : Value) : Prop :=
  ∃ levels, catalog.explainWithin levels validator value "value" = .ok []

theorem accepts_iff_satisfies :
    catalog.Accepts validator value ↔ catalog.Satisfies validator value :=
  exists_explainWithin_iff

theorem conforms_eq_ok_true_iff :
    catalog.conforms validator value = .ok true ↔
      catalog.explain validator value "value" = .ok [] := by
  rw [conforms, bind_eq_ok_iff]
  constructor
  · rintro ⟨problems, explained, empty⟩
    rw [Except.ok.injEq, List.isEmpty_iff] at empty
    rw [explained, empty]
  · intro clean
    exact ⟨[], clean, rfl⟩

theorem conforms_eq_error_iff {halt : Halt} :
    catalog.conforms validator value = .error halt ↔
      catalog.explain validator value "value" = .error halt := by
  rw [conforms, bind_eq_error_iff]
  simp

/-- A value conforms if it is accepted and the evaluation does not run too deep. -/
theorem conforms_iff_accepts :
    catalog.conforms validator value = .ok true ↔
      catalog.Accepts validator value ∧ catalog.conforms validator value ≠ .error .tooDeep := by
  rw [conforms_eq_ok_true_iff, accepts_iff_satisfies, Ne, conforms_eq_error_iff,
    explain_eq_ok_nil_iff]

theorem Fits.conforms_ne_tooDeep {levels : Nat} (fits : catalog.Fits levels validator)
    (enough : levels ≤ greatestDepth) (value : Value) :
    catalog.conforms validator value ≠ .error .tooDeep := by
  rw [Ne, conforms_eq_error_iff, explain]
  have withinLevels := fits.explainWithin_ne_tooDeep value "value"
  rwa [explainWithin_of_le enough withinLevels]

/-- Where the levels are always enough, a value conforms if it is accepted. -/
theorem Fits.conforms_iff_accepts {levels : Nat} (fits : catalog.Fits levels validator)
    (enough : levels ≤ greatestDepth) :
    catalog.conforms validator value = .ok true ↔ catalog.Accepts validator value := by
  rw [Catalog.conforms_iff_accepts, and_iff_left (fits.conforms_ne_tooDeep enough value)]

/--
Evaluation decides satisfaction. Without a bound on its levels it ends without problems exactly for
the values that satisfy the validator; within the levels that it has, it does so too unless the
validators that it goes through lie too deep inside of each other.
-/
theorem explain_eq_ok_nil_iff_satisfies (catalog : Catalog τ) (validator : Validator τ)
    (value : Value) (path : String) :
    ((∃ levels, catalog.explainWithin levels validator value path = .ok []) ↔
      catalog.Satisfies validator value) ∧
    (catalog.explain validator value path = .ok [] ↔
      catalog.Satisfies validator value ∧
        catalog.explain validator value path ≠ .error .tooDeep) :=
  ⟨exists_explainWithin_iff, explain_eq_ok_nil_iff⟩

end Decision

end Catalog

end EntityCatalog
