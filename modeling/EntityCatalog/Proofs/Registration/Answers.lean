import EntityCatalog.Proofs.Registration.Emission

/-!
# Introspectors that always answer alike

An introspector may answer differently over time. If it answers each question alike, whatever was
asked before, then what is remembered are its answers, and each part of a registration has the same
outcome whenever it is carried out: `Step.Yields` names this outcome. For normalization it is the
batch that the answers make of the declarations, which depends on the order of the declarations only
in the order of its entities.
-/

namespace EntityCatalog

variable {τ σ α β : Type}

namespace Introspector

/-- Answers to all questions: the report of a table of a scope, and the labels of a type. -/
structure Answers where
  describe : (table scope : String) → Except IntrospectionError ReportedEntity
  labels : (typeName : String) → Except IntrospectionError (List String)

variable {answers : Answers}

/-- Whether an introspector gives certain answers in every state and whatever the options are. -/
structure Gives (introspector : Introspector τ σ) (answers : Answers) : Prop where
  describe : ∀ table scope options state,
    (introspector.describe table scope options state).1 = answers.describe table scope
  labels : ∀ typeName state, (introspector.labels typeName state).1 = answers.labels typeName

namespace Memo

/-- Whether nothing but certain answers is remembered. -/
structure IsFaithful (memo : Memo σ) (answers : Answers) : Prop where
  reports : ∀ table scope report, memo.reports.get? (scope, table) = some report →
    answers.describe table scope = .ok report
  labels : ∀ typeName labels, memo.labels.get? typeName = some labels →
    answers.labels typeName = .ok labels

theorem isFaithful_fresh (source : σ) : (fresh source).IsFaithful answers where
  reports _ _ _ found := by cases found
  labels _ _ found := by cases found

variable {memo : Memo σ}

theorem IsFaithful.keepReport (faithful : memo.IsFaithful answers) (table scope : String)
    (source : σ) :
    (memo.keepReport (scope, table) source (answers.describe table scope)).IsFaithful answers := by
  rcases answer : answers.describe table scope with error | report
  · exact ⟨faithful.reports, faithful.labels⟩
  · refine ⟨?_, faithful.labels⟩
    intro otherTable otherScope other found
    rw [Memo.keepReport, OrderedMap.get?_insert] at found
    split at found
    · next same =>
      cases same
      cases found
      exact answer
    · exact faithful.reports otherTable otherScope other found

theorem IsFaithful.keepLabels (faithful : memo.IsFaithful answers) (typeName : String)
    (source : σ) :
    (memo.keepLabels typeName source (answers.labels typeName)).IsFaithful answers := by
  rcases answer : answers.labels typeName with error | labels
  · exact ⟨faithful.reports, faithful.labels⟩
  · refine ⟨faithful.reports, ?_⟩
    intro otherName other found
    rw [Memo.keepLabels, OrderedMap.get?_insert] at found
    split at found
    · next same =>
      cases same
      cases found
      exact answer
    · exact faithful.labels otherName other found

end Memo

variable {introspector : Introspector τ σ} {memo : Memo σ}

theorem Gives.memoized_describe (gives : introspector.Gives answers)
    (faithful : memo.IsFaithful answers) (table scope : String) (options : EntityOptions τ) :
    (introspector.memoized.describe table scope options memo).1 = answers.describe table scope ∧
      (introspector.memoized.describe table scope options memo).2.IsFaithful answers := by
  have answered := gives.describe table scope options memo.source
  simp only [memoized]
  rcases remembered : memo.reports.get? (scope, table) with _ | report
  · simp only [answered]
    exact ⟨trivial, faithful.keepReport table scope _⟩
  · exact ⟨(faithful.reports table scope report remembered).symm, faithful⟩

theorem Gives.memoized_labels (gives : introspector.Gives answers)
    (faithful : memo.IsFaithful answers) (typeName : String) :
    (introspector.memoized.labels typeName memo).1 = answers.labels typeName ∧
      (introspector.memoized.labels typeName memo).2.IsFaithful answers := by
  have answered := gives.labels typeName memo.source
  simp only [memoized]
  rcases remembered : memo.labels.get? typeName with _ | labels
  · simp only [answered]
    exact ⟨trivial, faithful.keepLabels typeName _⟩
  · exact ⟨(faithful.labels typeName labels remembered).symm, faithful⟩

/-- The answers of an introspector that serves reports which are at hand. -/
def Answers.ofReports (reports : OrderedMap String ReportedEntity)
    (labelTypes : OrderedMap String (List String)) : Answers where
  describe table scope :=
    match reports.get? table with
    | some report => .ok report
    | none => .error (.undescribed table scope)
  labels typeName := .ok (reportedLabels reports labelTypes typeName)

theorem gives_ofReports (reports : OrderedMap String ReportedEntity)
    (labelTypes : OrderedMap String (List String)) :
    (ofReports reports labelTypes : Introspector τ σ).Gives
      (.ofReports reports labelTypes) where
  describe table scope options state := by
    simp only [ofReports, Answers.ofReports]
    rcases reports.get? table <;> rfl
  labels typeName state := rfl

end Introspector

open Introspector (Answers)

namespace Step

variable {answers : Answers} {step : Step σ α} {outcome : Except RegistrationError α}

/-- Whether a part of a registration has a certain outcome as long as the memory is faithful. -/
def Yields (step : Step σ α) (answers : Answers) (outcome : Except RegistrationError α) : Prop :=
  ∀ start : Journal σ, start.memo.IsFaithful answers →
    (step.runFrom start).1 = outcome ∧ (step.runFrom start).2.memo.IsFaithful answers

theorem yields_pure (value : α) : (pure value : Step σ α).Yields answers (.ok value) :=
  fun _ faithful => ⟨rfl, faithful⟩

theorem yields_ofExcept (outcome : Except RegistrationError α) :
    (ofExcept outcome : Step σ α).Yields answers outcome :=
  fun _ faithful => ⟨rfl, faithful⟩

theorem yields_record (event : Event) : (record event : Step σ Unit).Yields answers (.ok ()) :=
  fun _ faithful => ⟨rfl, faithful⟩

theorem yields_bind {next : α → Step σ β} {nextOutcome : α → Except RegistrationError β}
    (first : step.Yields answers outcome)
    (second : ∀ value, outcome = .ok value → (next value).Yields answers (nextOutcome value)) :
    (step >>= next).Yields answers (outcome >>= nextOutcome) := by
  intro start faithful
  rcases first start faithful with ⟨outcomeEq, middleFaithful⟩
  rw [runFrom_bind]
  rcases ran : step.runFrom start with ⟨error | value, middle⟩
  · rw [ran] at outcomeEq middleFaithful
    rw [← outcomeEq]
    exact ⟨rfl, middleFaithful⟩
  · rw [ran] at outcomeEq middleFaithful
    rw [← outcomeEq]
    exact second value outcomeEq.symm middle middleFaithful

theorem yields_bind_of_ok {value : α} {next : α → Step σ β}
    {nextOutcome : Except RegistrationError β} (first : step.Yields answers (.ok value))
    (second : (next value).Yields answers nextOutcome) :
    (step >>= next).Yields answers nextOutcome := by
  intro start faithful
  rcases first start faithful with ⟨outcomeEq, middleFaithful⟩
  rw [runFrom_bind, (Prod.ext outcomeEq rfl : step.runFrom start = (.ok value, _))]
  exact second _ middleFaithful

theorem yields_foldlM {items : List α} {effect : β → α → Step σ β} {value : β → α → β}
    (each : ∀ item ∈ items, ∀ state, (effect state item).Yields answers (.ok (value state item)))
    (initial : β) : (items.foldlM effect initial).Yields answers (.ok (items.foldl value initial)) := by
  induction items generalizing initial with
  | nil => exact yields_pure initial
  | cons item rest ih =>
      rw [List.foldlM_cons]
      exact yields_bind_of_ok (each item List.mem_cons_self initial)
        (ih (fun later mem => each later (List.mem_cons_of_mem _ mem)) _)

/-- A question may be announced or not: only its answer counts. -/
theorem yields_announced (announces : Journal σ → Bool) (event : Event)
    (asked : step.Yields answers outcome) :
    Yields (do
      let journal ← get
      if announces journal then record event
      step) answers outcome := by
  intro start faithful
  rcases exists_runFrom_announced announces event step start with ⟨middle, memoEq, ran⟩
  rw [ran]
  apply asked
  rw [memoEq]
  exact faithful

/-- Whether a part of a registration always has the same outcome. -/
def IsRepeatable (step : Step σ α) (answers : Answers) : Prop :=
  ∃ outcome, step.Yields answers outcome

theorem isCompositional_isRepeatable (answers : Answers) :
    IsCompositional fun {_} (step : Step σ _) => step.IsRepeatable answers where
  pure value := ⟨_, yields_pure value⟩
  bind first second := by
    rcases first with ⟨outcome, yields⟩
    choose nextOutcome nextYields using second
    exact ⟨_, yields_bind yields fun value _ => nextYields value⟩
  record event := ⟨_, yields_record event⟩

end Step

namespace Registration

variable {answers : Answers} {introspector : Introspector τ σ}

section Questions

variable (gives : introspector.Gives answers)

include gives

theorem report_yields (declaration : Declaration τ) :
    (report introspector declaration).Yields answers
      ((answers.describe declaration.tableName declaration.scope).mapError .introspection) := by
  apply Step.yields_announced
  intro start faithful
  rcases gives.memoized_describe faithful declaration.tableName declaration.scope
    declaration.options with ⟨answered, faithful⟩
  exact ⟨congrArg (Except.mapError RegistrationError.introspection) answered, faithful⟩

theorem labels_yields (typeName : String) :
    (labels introspector typeName).Yields answers
      ((answers.labels typeName).mapError .introspection) := by
  apply Step.yields_announced
  intro start faithful
  rcases gives.memoized_labels faithful typeName with ⟨answered, faithful⟩
  exact ⟨congrArg (Except.mapError RegistrationError.introspection) answered, faithful⟩

variable [DecidableEq τ]

/-- What is declared for a batch does not depend on when its validators are declared. -/
theorem emit_isRepeatable (policy : TextPolicy) (registered batch : Entities τ)
    (order : List Identifier) :
    (emit introspector policy registered batch order).IsRepeatable answers := by
  apply holds_emit (Step.isCompositional_isRepeatable answers)
  · intro typeName
    exact ⟨_, labels_yields gives typeName⟩
  · intro outcome
    exact ⟨_, Step.yields_ofExcept _⟩

end Questions

end Registration

namespace Introspector.Answers

/-- The labels that a column's validator needs. -/
def neededLabels (answers : Answers) (registered : Entities τ) (column : Column τ) :
    Except RegistrationError (List String) :=
  match column.labelSource? registered with
  | some typeName => (answers.labels typeName).mapError .introspection
  | none => .ok []

/-- The validator that the answers of an introspector make of a column, if there is one. -/
def validator? [DecidableEq τ] (answers : Answers) (registered : Entities τ) (policy : TextPolicy)
    (column : Column τ) : Except RegistrationError (Option (Validator τ)) := do
  let labels ← answers.neededLabels registered column
  (column.validator? registered policy labels).mapError .unbounded

end Introspector.Answers

namespace Registration

variable {answers : Answers} {introspector : Introspector τ σ}
  {policy : TextPolicy} {registered batch : Entities τ} {derive : Column τ → Option (Validator τ)}

theorem declareOrExclude_yields (emission : Emission τ) (entry : Identifier × Column τ) :
    (declareOrExclude emission entry (derive entry.2) : Step σ (Emission τ)).Yields answers
      (.ok (emission.declareColumn derive entry)) := by
  unfold Emission.declareColumn
  rcases derive entry.2 with _ | validator
  · exact Step.yields_bind (Step.yields_record _) fun _ _ => Step.yields_pure _
  · exact Step.yields_pure _

variable [DecidableEq τ] (gives : introspector.Gives answers)

include gives

theorem emitColumn_yields {entry : Identifier × Column τ}
    (derived : answers.validator? registered policy entry.2 = .ok (derive entry.2))
    (emission : Emission τ) :
    (emitColumn introspector policy registered emission entry).Yields answers
      (.ok (emission.declareColumn derive entry)) := by
  have labelled : (neededLabels introspector registered entry.2).Yields answers
      (answers.neededLabels registered entry.2) := by
    unfold neededLabels Introspector.Answers.neededLabels
    rcases entry.2.labelSource? registered with _ | typeName
    · exact Step.yields_pure []
    · exact labels_yields gives typeName
  have calculated := Step.yields_bind labelled fun labels _ =>
    Step.yields_ofExcept ((entry.2.validator? registered policy labels).mapError
      RegistrationError.unbounded)
  change Step.Yields _ answers (answers.validator? registered policy entry.2) at calculated
  rw [derived] at calculated
  rw [emitColumn_eq, ← bind_assoc]
  exact Step.yields_bind_of_ok calculated (declareOrExclude_yields emission entry)

/-- What is declared for a batch if the answers make a validator, or none, of each column. -/
theorem emit_yields
    (derived : ∀ owner entity listed column, batch.get? owner = some entity →
      entity.columns.get? listed = some column →
        answers.validator? registered policy column = .ok (derive column))
    (order : List Identifier) :
    (emit introspector policy registered batch order).Yields answers
      (.ok (.ofBatch derive batch order)) := by
  apply Step.yields_foldlM
  intro owner _ emission
  rcases member : batch.get? owner with _ | entity
  · exact Step.yields_pure emission
  · simp only [emitEntity, Emission.declareEntity]
    split
    · exact Step.yields_pure _
    · apply Step.yields_foldlM
      intro entry mem
      exact emitColumn_yields gives (derived owner entity entry.1 entry.2 member
        (OrderedMap.get?_eq_some_iff_mem.mpr mem))

end Registration

namespace Introspector.Answers

variable {answers : Answers} {declarations permuted : List (Declaration τ)}
  {initial result : Entities τ}

/-- The entity that is made of a declaration and the report of its table. -/
def entity (answers : Answers) (declaration : Declaration τ) :
    Except RegistrationError (Entity τ) := do
  let report ← (answers.describe declaration.tableName declaration.scope).mapError .introspection
  (Entity.ofReport report declaration).mapError .invalidRecord

/-- The batch that is made of some declarations, in addition to the entities it begins with. -/
def batch (answers : Answers) :
    List (Declaration τ) → Entities τ → Except RegistrationError (Entities τ)
  | [], batch => .ok batch
  | declaration :: rest, batch =>
      if batch.contains declaration.identifier then
        .error (.duplicateEntity declaration.identifier)
      else do
        let entity ← answers.entity declaration
        answers.batch rest (batch.insert declaration.identifier entity)

theorem batch_cons_eq_ok_iff {declaration : Declaration τ} {rest : List (Declaration τ)} :
    answers.batch (declaration :: rest) initial = .ok result ↔
      declaration.identifier ∉ initial.keys ∧ ∃ entity, answers.entity declaration = .ok entity ∧
        answers.batch rest (initial.insert declaration.identifier entity) = .ok result := by
  rw [Answers.batch, OrderedMap.contains, OrderedMap.mem_keys_iff]
  by_cases key : (initial.get? declaration.identifier).isSome
  · simp [key]
  · simp only [key, Bool.false_eq_true, if_false, not_false_eq_true, true_and]
    exact bind_eq_ok_iff

/-- A batch has the entity of each declaration, next to those it begins with, and no other. -/
theorem get?_batch (made : answers.batch declarations initial = .ok result)
    {identifier : Identifier} {entity : Entity τ} :
    result.get? identifier = some entity ↔
      initial.get? identifier = some entity ∨
        ∃ declaration ∈ declarations, declaration.identifier = identifier ∧
          answers.entity declaration = .ok entity := by
  induction declarations generalizing initial with
  | nil =>
      cases made
      simp
  | cons declaration rest ih =>
      rcases batch_cons_eq_ok_iff.mp made with ⟨fresh, first, described, restMade⟩
      rw [ih restMade, OrderedMap.get?_insert]
      by_cases same : identifier = declaration.identifier
      · have absent : initial.get? identifier = none := by
          rw [same, OrderedMap.get?_eq_none_iff]
          exact fresh
        simp [same ▸ absent, same, described]
      · have different : ¬declaration.identifier = identifier := fun eq => same eq.symm
        simp [same, different]

/-- A batch can be made if no identifier comes twice and every declaration has an entity. -/
theorem exists_batch_iff :
    (∃ result, answers.batch declarations initial = .ok result) ↔
      (declarations.map Declaration.identifier).Nodup ∧ ∀ declaration ∈ declarations,
        declaration.identifier ∉ initial.keys ∧
          ∃ entity, answers.entity declaration = .ok entity := by
  induction declarations generalizing initial with
  | nil => simp [Answers.batch]
  | cons declaration rest ih =>
      simp only [batch_cons_eq_ok_iff, List.map_cons, List.nodup_cons, List.forall_mem_cons]
      constructor
      · rintro ⟨result, fresh, entity, described, made⟩
        rcases ih.mp ⟨result, made⟩ with ⟨nodup, others⟩
        have notAgain : declaration.identifier ∉ rest.map Declaration.identifier := by
          intro again
          rcases List.mem_map.mp again with ⟨other, mem, same⟩
          exact (others other mem).1 (OrderedMap.mem_keys_insert.mpr (Or.inl same))
        refine ⟨⟨notAgain, nodup⟩, ⟨fresh, entity, described⟩, ?_⟩
        intro other mem
        rcases others other mem with ⟨otherFresh, otherDescribed⟩
        exact ⟨fun key => otherFresh (OrderedMap.mem_keys_insert.mpr (Or.inr key)), otherDescribed⟩
      · rintro ⟨⟨notAgain, nodup⟩, ⟨fresh, entity, described⟩, others⟩
        have restFresh : ∀ other ∈ rest,
            other.identifier ∉ (initial.insert declaration.identifier entity).keys ∧
              ∃ entity, answers.entity other = .ok entity := by
          intro other mem
          refine ⟨?_, (others other mem).2⟩
          rw [OrderedMap.mem_keys_insert]
          rintro (same | key)
          · exact notAgain (List.mem_map.mpr ⟨other, mem, same⟩)
          · exact (others other mem).1 key
        rcases ih.mpr ⟨nodup, restFresh⟩ with ⟨result, made⟩
        exact ⟨result, fresh, entity, described, made⟩

/-- The order of the declarations only decides about the order of the entities of the batch. -/
theorem exists_batch_perm (same : declarations.Perm permuted)
    (made : answers.batch declarations .empty = .ok result) :
    ∃ other, answers.batch permuted .empty = .ok other ∧ result.SameAs other := by
  have possible : ∃ other, answers.batch permuted .empty = .ok other := by
    have condition := exists_batch_iff.mp ⟨result, made⟩
    rw [exists_batch_iff, ← (same.map _).nodup_iff]
    exact ⟨condition.1, fun declaration mem => condition.2 declaration (same.mem_iff.mpr mem)⟩
  rcases possible with ⟨other, otherMade⟩
  refine ⟨other, otherMade, ?_⟩
  intro identifier
  apply Option.ext
  intro entity
  rw [get?_batch made, get?_batch otherMade]
  simp only [same.mem_iff]

end Introspector.Answers

namespace Registration

/-- With an introspector that always answers alike, its answers make the batch. -/
theorem normalize_yields {answers : Answers} {introspector : Introspector τ σ}
    (gives : introspector.Gives answers) (declarations : List (Declaration τ))
    (initial : Entities τ) :
    (normalize introspector declarations initial).Yields answers
      (answers.batch declarations initial) := by
  induction declarations generalizing initial with
  | nil => exact Step.yields_pure initial
  | cons declaration rest ih =>
      rw [normalize, Answers.batch]
      dsimp only
      split
      · intro start faithful
        exact ⟨rfl, faithful⟩
      · have described : ((report introspector declaration) >>= fun report =>
            Step.ofExcept ((Entity.ofReport report declaration).mapError
              RegistrationError.invalidRecord)).Yields answers (answers.entity declaration) :=
          Step.yields_bind (report_yields gives declaration) fun _ _ => Step.yields_ofExcept _
        have added := Step.yields_bind described fun entity _ =>
          Step.yields_bind (Step.yields_record
            (.normalized entity.kind entity.identifier entity.name entity.columns.size))
            fun _ _ => ih (initial.insert declaration.identifier entity)
        rw [bind_assoc] at added
        exact added

/-- If a batch can be made of some declarations, the same can be made of them in another order. -/
theorem exists_normalize_of_perm {answers : Answers} {introspector : Introspector τ σ}
    (gives : introspector.Gives answers) {declarations permuted : List (Declaration τ)}
    (same : declarations.Perm permuted) {start final : Journal σ} {batch : Entities τ}
    (normalized : (normalize introspector declarations .empty).runFrom start = (.ok batch, final))
    (faithful : start.memo.IsFaithful answers) (other : Journal σ)
    (otherFaithful : other.memo.IsFaithful answers) :
    final.memo.IsFaithful answers ∧ ∃ otherBatch otherFinal,
      (normalize introspector permuted .empty).runFrom other = (.ok otherBatch, otherFinal) ∧
        batch.SameAs otherBatch ∧ otherFinal.memo.IsFaithful answers := by
  have yielded := normalize_yields gives declarations .empty start faithful
  rw [normalized] at yielded
  rcases Answers.exists_batch_perm same yielded.1.symm with ⟨otherBatch, made, sameBatch⟩
  have otherYielded := normalize_yields gives permuted .empty other otherFaithful
  rw [made] at otherYielded
  exact ⟨yielded.2, otherBatch, _, Prod.ext otherYielded.1 rfl, sameBatch, otherYielded.2⟩

/-- A registration that succeeds has made its batch of the answers and remembers answers only. -/
theorem Course.isFaithful [DecidableEq τ] [Transform τ] {answers : Answers}
    {introspector : Introspector τ σ} (gives : introspector.Gives answers) {prior : Entities τ}
    {declarations : List (Declaration τ)} {policy : RegistrationPolicy} {source : σ}
    {registration : Registration τ} {final : Journal σ}
    (course : Course prior introspector declarations policy ⟨.fresh source, []⟩ registration final) :
    answers.batch declarations .empty = .ok course.reported ∧ final.memo.IsFaithful answers := by
  have described := normalize_yields gives declarations .empty ⟨.fresh source, []⟩
    (Introspector.Memo.isFaithful_fresh source)
  rw [course.normalized] at described
  rcases emit_isRepeatable gives policy.text (prior.overlay registration.entities)
    registration.entities course.order with ⟨_, yields⟩
  have declared := (yields course.checked (course.checked_memo ▸ described.2)).2
  rw [course.declared] at declared
  exact ⟨described.1.symm, course.final_memo ▸ declared⟩

end Registration

end EntityCatalog
