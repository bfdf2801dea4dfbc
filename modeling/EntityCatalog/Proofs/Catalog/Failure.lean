import Mathlib.Logic.Relation
import EntityCatalog.Proofs.Catalog.Termination
import EntityCatalog.Proofs.Outcome

/-!
# Why evaluations fail

An evaluation that fails has reached a validator that fails by itself: a base type that is not
known, a reference that is not declared, a limit or a transform that breaks down, or a value in the
place of a validator. In a closed catalog everything that is referred to is declared, so there no
evaluation fails for a reference. An evaluation can only run too deep if validators lead to each
other further than there are levels.
-/

namespace EntityCatalog

variable {τ : Type}

section Items

variable {α : Type} {explain : α → Evaluation (List Problem)} {items : List α} {halt : Halt}

theorem exists_of_collectProblems_eq_error (halted : collectProblems explain items = .error halt) :
    ∃ item ∈ items, explain item = .error halt := by
  induction items with
  | nil => simp [collectProblems] at halted
  | cons item rest ih =>
      rcases bind_eq_error_iff.mp halted with itemHalted | ⟨_, _, restHalted⟩
      · exact ⟨item, by simp, itemHalted⟩
      · rcases bind_eq_error_iff.mp restHalted with restHalted | ⟨_, _, ⟨⟩⟩
        rcases ih restHalted with ⟨later, mem, laterHalted⟩
        exact ⟨later, by simp [mem], laterHalted⟩

theorem exists_of_firstProblems_eq_error (halted : firstProblems explain items = .error halt) :
    ∃ item ∈ items, explain item = .error halt := by
  induction items with
  | nil => simp [firstProblems] at halted
  | cons item rest ih =>
      rcases bind_eq_error_iff.mp halted with itemHalted | ⟨problems, _, restHalted⟩
      · exact ⟨item, by simp, itemHalted⟩
      · split at restHalted
        · rcases ih restHalted with ⟨later, mem, laterHalted⟩
          exact ⟨later, by simp [mem], laterHalted⟩
        · cases restHalted

end Items

namespace Catalog

/-- Whether the evaluation of a validator may go on with another one. -/
inductive LeadsTo (catalog : Catalog τ) : Validator τ → Validator τ → Prop where
  | reference {target : Identifier} {declaration : Validator τ}
      (found : catalog.declared? target = some declaration) :
      LeadsTo catalog (.reference target) declaration
  | part {parts : List (Validator τ)} {part : Validator τ} (mem : part ∈ parts) :
      LeadsTo catalog (.allOf parts) part
  | transformed (inner : Validator τ) (transform : τ) :
      LeadsTo catalog (.transformed inner transform) inner
  | nullable (inner : Validator τ) : LeadsTo catalog (.nullable inner) inner
  | collection (inner : Validator τ) : LeadsTo catalog (.collection inner) inner
  | key {required optional : List Identifier} {key : Identifier} {declaration : Validator τ}
      (found : catalog.declared? key = some declaration) :
      LeadsTo catalog (.keys required optional) declaration

/-- Whether no evaluation of a validator needs more than so many levels. -/
def Fits (catalog : Catalog τ) : Nat → Validator τ → Prop
  | 0, _ => False
  | levels + 1, validator => ∀ next, catalog.LeadsTo validator next → catalog.Fits levels next

theorem Fits.succ {catalog : Catalog τ} {levels : Nat} {validator : Validator τ}
    (fits : catalog.Fits levels validator) : catalog.Fits (levels + 1) validator := by
  induction levels generalizing validator with
  | zero => cases fits
  | succ levels ih => exact fun next leads => ih (fits next leads)

section Fits

variable {catalog : Catalog τ} {levels : Nat} {inner : Validator τ}

theorem fits_base (typeName : String) : catalog.Fits (levels + 1) (.base typeName) := by
  intro next leads
  cases leads

theorem fits_maxLength (limit : Quantity) : catalog.Fits (levels + 1) (.maxLength limit) := by
  intro next leads
  cases leads

theorem fits_oneOf (labels : List String) : catalog.Fits (levels + 1) (.oneOf labels) := by
  intro next leads
  cases leads

theorem Fits.reference {target : Identifier} {declaration : Validator τ}
    (declared : catalog.declared? target = some declaration)
    (fits : catalog.Fits levels declaration) : catalog.Fits (levels + 1) (.reference target) := by
  intro next leads
  cases leads with
  | reference found =>
      rw [declared, Option.some.injEq] at found
      exact found ▸ fits

theorem Fits.allOf {parts : List (Validator τ)} (fits : ∀ part ∈ parts, catalog.Fits levels part) :
    catalog.Fits (levels + 1) (.allOf parts) := by
  intro next leads
  cases leads with
  | part mem => exact fits next mem

theorem Fits.transformed (fits : catalog.Fits levels inner) (transform : τ) :
    catalog.Fits (levels + 1) (.transformed inner transform) := by
  intro next leads
  cases leads
  exact fits

theorem Fits.nullable (fits : catalog.Fits levels inner) :
    catalog.Fits (levels + 1) (.nullable inner) := by
  intro next leads
  cases leads
  exact fits

theorem Fits.collection (fits : catalog.Fits levels inner) :
    catalog.Fits (levels + 1) (.collection inner) := by
  intro next leads
  cases leads
  exact fits

end Fits

/-- Whether a validator fails by itself. -/
inductive Raises (catalog : Catalog τ) : Validator τ → EvaluationError → Prop where
  | base {typeName : String} (unknown : BaseType.ofName? typeName = none) :
      Raises catalog (.base typeName) (.unknownBaseType typeName)
  | reference {target : Identifier} (absent : catalog.declared? target = none) :
      Raises catalog (.reference target) (.undeclared target)
  | maxLength (limit : Quantity) (fault : QuantityFault) :
      Raises catalog (.maxLength limit) (.unlimited fault)
  | transformed (inner : Validator τ) (transform : τ) (kind message : String) :
      Raises catalog (.transformed inner transform) (.breakdown kind message)
  | foreign (value : Value) : Raises catalog (.foreign value) (.notAValidator value)

variable {catalog : Catalog τ} {validator : Validator τ} {error : EvaluationError}

section Evaluation

variable [Transform τ] {value : Value} {path : String}

/-- Whether the evaluation of a value may go on with another validator and another value. -/
inductive GoesOnWith (catalog : Catalog τ) : Validator τ → Value → Validator τ → Value → Prop where
  | reference {target : Identifier} {declaration : Validator τ} {value : Value}
      (declared : catalog.declared? target = some declaration) :
      GoesOnWith catalog (.reference target) value declaration value
  | part {parts : List (Validator τ)} {part : Validator τ} {value : Value} (mem : part ∈ parts) :
      GoesOnWith catalog (.allOf parts) value part value
  | transformed {inner : Validator τ} {transform : τ} {value stored : Value}
      (converted : Transform.toStorage transform value = .ok stored) :
      GoesOnWith catalog (.transformed inner transform) value inner stored
  | nullable (inner : Validator τ) {value : Value} :
      GoesOnWith catalog (.nullable inner) value inner value
  | list {inner : Validator τ} {items : List Value} {item : Value} (mem : item ∈ items) :
      GoesOnWith catalog (.collection inner) (.list items) inner item
  | tuple {inner : Validator τ} {items : List Value} {item : Value} (mem : item ∈ items) :
      GoesOnWith catalog (.collection inner) (.tuple items) inner item
  | key {required optional : List Identifier} {entries : List (Value × Value)}
      {key : Identifier} {item : Value} {declaration : Validator τ}
      (found : rowItem? entries key = some item)
      (declared : catalog.declared? key = some declaration) :
      GoesOnWith catalog (.keys required optional) (.mapping entries) declaration item

theorem GoesOnWith.leadsTo {next : Validator τ} {nextValue : Value}
    (goesOn : catalog.GoesOnWith validator value next nextValue) :
    catalog.LeadsTo validator next := by
  cases goesOn with
  | reference declared => exact .reference declared
  | part mem => exact .part mem
  | transformed converted => exact .transformed _ _
  | nullable => exact .nullable _
  | list mem => exact .collection _
  | tuple mem => exact .collection _
  | key found declared => exact .key declared

/-- A level fails by itself or has no answer because of the next one. -/
theorem raises_or_goesOnWith_of_explainStep
    {explain : Validator τ → Value → String → Evaluation (List Problem)} {halt : Halt}
    (halted : catalog.explainStep explain validator value path = .error halt) :
    (∃ error, halt = .failed error ∧ catalog.Raises validator error) ∨
      ∃ next nextValue nextPath, catalog.GoesOnWith validator value next nextValue ∧
        explain next nextValue nextPath = .error halt := by
  cases validator with
  | base typeName =>
      simp only [explainStep] at halted
      rcases known : BaseType.ofName? typeName with _ | baseType
      · rw [known] at halted
        cases halted
        exact Or.inl ⟨_, rfl, .base known⟩
      · rw [known] at halted
        cases halted
  | reference target =>
      simp only [explainStep] at halted
      rcases found : catalog.declared? target with _ | declaration
      · rw [found] at halted
        cases halted
        exact Or.inl ⟨_, rfl, .reference found⟩
      · rw [found] at halted
        exact Or.inr ⟨declaration, value, path, .reference found, halted⟩
  | oneOf labels => simp [explainStep] at halted
  | maxLength limit =>
      simp only [explainStep] at halted
      unfold lengthProblems at halted
      split at halted
      · split at halted
        · cases halted
        · cases halted
          exact Or.inl ⟨_, rfl, .maxLength limit _⟩
      · cases halted
  | allOf parts =>
      rcases exists_of_firstProblems_eq_error halted with ⟨part, mem, partHalted⟩
      exact Or.inr ⟨part, value, path, .part mem, partHalted⟩
  | transformed inner transform =>
      simp only [explainStep] at halted
      split at halted
      · next stored converted =>
        exact Or.inr ⟨inner, stored, path, .transformed converted, halted⟩
      · next kind message _ =>
        cases halted
        exact Or.inl ⟨_, rfl, .transformed inner transform kind message⟩
      · cases halted
  | nullable inner =>
      simp only [explainStep] at halted
      split at halted
      · cases halted
      · exact Or.inr ⟨inner, value, path, .nullable inner, halted⟩
  | collection inner =>
      simp only [explainStep] at halted
      split at halted
      · rcases exists_of_collectProblems_eq_error halted with ⟨item, mem, itemHalted⟩
        exact Or.inr ⟨inner, item.1, _, .list (List.fst_mem_of_mem_zipIdx mem), itemHalted⟩
      · rcases exists_of_collectProblems_eq_error halted with ⟨item, mem, itemHalted⟩
        exact Or.inr ⟨inner, item.1, _, .tuple (List.fst_mem_of_mem_zipIdx mem), itemHalted⟩
      · cases halted
  | keys required optional =>
      simp only [explainStep] at halted
      split at halted
      · next entries =>
        rcases bind_eq_error_iff.mp halted with collected | ⟨_, _, ⟨⟩⟩
        rcases exists_of_collectProblems_eq_error collected with ⟨key, _, entryHalted⟩
        unfold explainEntry at entryHalted
        split at entryHalted
        · next item declaration itemFound found =>
          exact Or.inr ⟨declaration, item, _, .key itemFound found, entryHalted⟩
        · cases entryHalted
      · cases halted
  | foreign foreign =>
      cases halted
      exact Or.inl ⟨_, rfl, .foreign foreign⟩

/-- An evaluation that fails has reached a validator that fails by itself. -/
theorem exists_raises_of_explainWithin {levels : Nat}
    (failed : catalog.explainWithin levels validator value path = .error (.failed error)) :
    ∃ reached, Relation.ReflTransGen catalog.LeadsTo validator reached ∧
      catalog.Raises reached error := by
  induction levels generalizing validator value path with
  | zero => cases failed
  | succ levels ih =>
      rw [explainWithin_succ] at failed
      rcases raises_or_goesOnWith_of_explainStep failed with
        ⟨_, ⟨⟩, raises⟩ | ⟨next, nextValue, nextPath, goesOn, nextFailed⟩
      · exact ⟨validator, .refl, raises⟩
      · rcases ih nextFailed with ⟨reached, reaches, raises⟩
        exact ⟨reached, .head goesOn.leadsTo reaches, raises⟩

/-- An evaluation has an answer within the levels that its validator needs. -/
theorem Fits.explainWithin_ne_tooDeep {levels : Nat} (fits : catalog.Fits levels validator)
    (value : Value) (path : String) :
    catalog.explainWithin levels validator value path ≠ .error .tooDeep := by
  induction levels generalizing validator value path with
  | zero => cases fits
  | succ levels ih =>
      intro deep
      rw [explainWithin_succ] at deep
      rcases raises_or_goesOnWith_of_explainStep deep with
        ⟨_, ⟨⟩, _⟩ | ⟨next, nextValue, nextPath, goesOn, nextDeep⟩
      exact ih (fits next goesOn.leadsTo) nextValue nextPath nextDeep

end Evaluation

/-- Whether everything that declarations refer to is declared. -/
def IsClosed (catalog : Catalog τ) : Prop :=
  ∀ listed validator, catalog.find? listed = some validator →
    ∀ target ∈ validator.references, target ∈ catalog.identifiers

/-- Whether no value stands in the place of a declaration. -/
def IsGenuine (catalog : Catalog τ) : Prop :=
  ∀ listed value, catalog.find? listed ≠ some (.foreign value)

theorem mem_identifiers_iff {identifier : Identifier} :
    identifier ∈ catalog.identifiers ↔ ∃ validator, catalog.find? identifier = some validator := by
  rw [identifiers, OrderedMap.mem_keys_iff, Option.isSome_iff_exists]
  rfl

theorem mem_identifiers_update {other : Catalog τ} {identifier : Identifier} :
    identifier ∈ (catalog.update other).identifiers ↔
      identifier ∈ other.identifiers ∨ identifier ∈ catalog.identifiers :=
  OrderedMap.mem_keys_overlay

theorem find?_update_eq_some {other : Catalog τ} {identifier : Identifier}
    (found : (catalog.update other).find? identifier = some validator) :
    other.find? identifier = some validator ∨ catalog.find? identifier = some validator := by
  rw [find?, update, OrderedMap.get?_overlay] at found
  exact (Option.or_eq_some_iff.mp found).imp_right And.right

theorem declared?_of_find? {identifier : Identifier}
    (found : catalog.find? identifier = some validator) (notAbsent : validator ≠ .foreign .null) :
    catalog.declared? identifier = some validator := by
  unfold declared?
  split
  · next absent =>
    rw [found, Option.some.injEq] at absent
    exact absurd absent notAbsent
  · exact found

theorem declared?_ne_none (genuine : catalog.IsGenuine) {identifier : Identifier}
    (mem : identifier ∈ catalog.identifiers) : catalog.declared? identifier ≠ none := by
  rcases mem_identifiers_iff.mp mem with ⟨validator, found⟩
  have notAbsent : validator ≠ .foreign .null := by
    intro same
    exact genuine identifier .null (same ▸ found)
  simp [declared?_of_find? found notAbsent]

/-- Whether everything that a validator refers to is declared. -/
def Resolves (catalog : Catalog τ) (validator : Validator τ) : Prop :=
  ∀ target ∈ validator.references, target ∈ catalog.identifiers

theorem IsClosed.resolves_of_declared? (closed : catalog.IsClosed) {identifier : Identifier}
    (found : catalog.declared? identifier = some validator) : catalog.Resolves validator :=
  closed identifier validator (find?_of_declared? found)

theorem LeadsTo.resolves (closed : catalog.IsClosed) {next : Validator τ}
    (leads : catalog.LeadsTo validator next) (resolves : catalog.Resolves validator) :
    catalog.Resolves next := by
  cases leads with
  | reference found => exact closed.resolves_of_declared? found
  | part mem =>
      intro target targetMem
      have listed := Validator.mem_partsReferences_iff.mpr ⟨next, mem, targetMem⟩
      exact resolves target (by simpa [Validator.references] using listed)
  | transformed => exact resolves
  | nullable => exact resolves
  | collection => exact resolves
  | key found => exact closed.resolves_of_declared? found

/-- In a closed catalog an evaluation only reaches validators whose references are declared. -/
theorem resolves_of_reaches (closed : catalog.IsClosed) {reached : Validator τ}
    (reaches : Relation.ReflTransGen catalog.LeadsTo validator reached)
    (resolves : catalog.Resolves validator) : catalog.Resolves reached := by
  induction reaches with
  | refl => exact resolves
  | tail _ leads ih => exact leads.resolves closed ih

/-- A closed catalog fails for unknown base types at most, never for a reference. -/
theorem error_of_explainWithin [Transform τ] (closed : catalog.IsClosed)
    (genuine : catalog.IsGenuine) {listed : Identifier}
    (found : catalog.find? listed = some validator) {levels : Nat} {value : Value} {path : String}
    (failed : catalog.explainWithin levels validator value path = .error (.failed error)) :
    (∀ target, error ≠ .undeclared target) ∧
      ∀ typeName, error = .unknownBaseType typeName →
        BaseType.ofName? typeName = none ∧
          Relation.ReflTransGen catalog.LeadsTo validator (.base typeName) := by
  rcases exists_raises_of_explainWithin failed with ⟨reached, reaches, raises⟩
  constructor
  · rintro target rfl
    cases raises with
    | reference absent =>
        have resolves := resolves_of_reaches closed reaches (closed listed validator found)
        have mem : target ∈ catalog.identifiers :=
          resolves target (by simp [Validator.references])
        exact declared?_ne_none genuine mem absent
  · rintro typeName rfl
    cases raises with
    | base unknown => exact ⟨unknown, reaches⟩

end Catalog

end EntityCatalog
