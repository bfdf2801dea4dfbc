import EntityCatalog.Proofs.Outcome
import EntityCatalog.Proofs.Registration.Stages

/-!
# What a registration declares

The validators of a batch are declared while the introspector is still being asked for labels. As
every answer is remembered, the outcome is a function of the labels that are known at the end:
`Step.Computes` says this of a part of a registration, and `emit_computes` of the declaration of a
whole batch. That every label which is needed for it is known by then is said by
`emit_establishes`. What is declared is a plain list, in which a later declaration of an identifier
replaces an earlier one.
-/

namespace EntityCatalog

/-- Labels of enumeration types by the name of the type. -/
abbrev KnownLabels := OrderedMap String (List String)

namespace Step

variable {σ α β : Type}

theorem runFrom_ask_eq_ok_iff {question : Introspector.Memo σ →
      Except IntrospectionError α × Introspector.Memo σ} {start final : Journal σ} {result : α} :
    (ask question).runFrom start = (.ok result, final) ↔
      (question start.memo).1 = .ok result ∧
        { start with memo := (question start.memo).2 } = final := by
  change ((question start.memo).1.mapError RegistrationError.introspection,
    { start with memo := (question start.memo).2 }) = (.ok result, final) ↔ _
  rw [Prod.mk.injEq, mapError_eq_ok_iff]

/--
A part of a registration that forgets no labels and gives, whenever it succeeds, what the labels
known at its end or at any later time say.
-/
def Computes (step : Step σ α) (value : KnownLabels → α) : Prop :=
  ∀ start result final, step.runFrom start = (.ok result, final) →
    start.memo.labels.IncludedIn final.memo.labels ∧
      ∀ known, final.memo.labels.IncludedIn known → result = value known

theorem computes_pure (value : α) : (pure value : Step σ α).Computes fun _ => value := by
  intro start result final ran
  rcases runFrom_pure_eq_ok_iff.mp ran with ⟨rfl, rfl⟩
  exact ⟨.refl _, fun _ _ => rfl⟩

theorem computes_bind {step : Step σ α} {next : α → Step σ β} {value : KnownLabels → α}
    {nextValue : α → KnownLabels → β} (first : step.Computes value)
    (second : ∀ intermediate, (next intermediate).Computes (nextValue intermediate)) :
    (step >>= next).Computes fun known => nextValue (value known) known := by
  intro start result final ran
  rcases runFrom_bind_eq_ok_iff.mp ran with ⟨intermediate, middle, firstRan, secondRan⟩
  have firstDone := first start intermediate middle firstRan
  have secondDone := second intermediate middle result final secondRan
  refine ⟨firstDone.1.trans secondDone.1, ?_⟩
  intro known included
  have intermediateEq := firstDone.2 known (secondDone.1.trans included)
  rw [secondDone.2 known included, intermediateEq]

theorem computes_ofExcept {ε : Type} (outcome : Except ε (Option α))
    (error : ε → RegistrationError) :
    (ofExcept (outcome.mapError error) : Step σ (Option α)).Computes fun _ =>
      outcome.toOption.join := by
  intro start result final ran
  rcases runFrom_ofExcept_eq_ok_iff.mp ran with ⟨outcomeEq, rfl⟩
  rw [mapError_eq_ok_iff.mp outcomeEq]
  exact ⟨.refl _, fun _ _ => rfl⟩

theorem computes_record (event : Event) : (record event : Step σ Unit).Computes fun _ => () := by
  intro start result final ran
  rw [← runFrom_record_eq_ok_iff.mp ran]
  exact ⟨.refl _, fun _ _ => rfl⟩

theorem computes_foldlM {items : List α} {effect : β → α → Step σ β}
    {value : KnownLabels → β → α → β}
    (each : ∀ state item, (effect state item).Computes fun known => value known state item)
    (initial : β) :
    (items.foldlM effect initial).Computes fun known => items.foldl (value known) initial := by
  induction items generalizing initial with
  | nil => exact computes_pure initial
  | cons item rest ih =>
      rw [List.foldlM_cons]
      exact computes_bind (each initial item) ih

/-- A part of a registration that only succeeds once something about the known labels holds. -/
def Establishes (step : Step σ α) (holds : KnownLabels → Prop) : Prop :=
  ∀ start result final, step.runFrom start = (.ok result, final) →
    ∀ known, final.memo.labels.IncludedIn known → holds known

theorem establishes_bind_left {step : Step σ α} {next : α → Step σ β}
    {holds : KnownLabels → Prop} {nextValue : α → KnownLabels → β} (first : step.Establishes holds)
    (second : ∀ intermediate, (next intermediate).Computes (nextValue intermediate)) :
    (step >>= next).Establishes holds := by
  intro start result final ran known included
  rcases runFrom_bind_eq_ok_iff.mp ran with ⟨intermediate, middle, firstRan, secondRan⟩
  have kept := (second intermediate middle result final secondRan).1
  exact first start intermediate middle firstRan known (kept.trans included)

theorem establishes_bind_right {step : Step σ α} {next : α → Step σ β}
    {holds : KnownLabels → Prop}
    (second : ∀ intermediate, (next intermediate).Establishes holds) :
    (step >>= next).Establishes holds := by
  intro start result final ran
  rcases runFrom_bind_eq_ok_iff.mp ran with ⟨intermediate, middle, _, secondRan⟩
  exact second intermediate middle result final secondRan

theorem establishes_foldlM {items : List α} {effect : β → α → Step σ β}
    {value : KnownLabels → β → α → β}
    (each : ∀ state item, (effect state item).Computes fun known => value known state item)
    {holds : KnownLabels → Prop} {item : α} (mem : item ∈ items)
    (one : ∀ state, (effect state item).Establishes holds) (initial : β) :
    (items.foldlM effect initial).Establishes holds := by
  induction items generalizing initial with
  | nil => cases mem
  | cons first rest ih =>
      rw [List.foldlM_cons]
      rcases List.mem_cons.mp mem with rfl | mem
      · exact establishes_bind_left (one initial) (computes_foldlM each)
      · exact establishes_bind_right (ih mem)

end Step

namespace Registration

variable {τ σ : Type}

theorem ask_labels_answered {introspector : Introspector τ σ} {typeName : String}
    {start final : Journal σ} {result : List String}
    (ran : (Step.ask (introspector.memoized.labels typeName)).runFrom start =
      (.ok result, final)) :
    start.memo.labels.IncludedIn final.memo.labels ∧
      final.memo.labels.get? typeName = some result := by
  rcases Step.runFrom_ask_eq_ok_iff.mp ran with ⟨answered, rfl⟩
  rcases remembered : start.memo.labels.get? typeName with _ | labels
  · rw [Introspector.memoized_labels_of_none remembered] at answered ⊢
    simp only at answered ⊢
    rw [answered]
    exact ⟨OrderedMap.includedIn_insert remembered _, by simp [Introspector.Memo.keepLabels]⟩
  · rw [Introspector.memoized_labels_of_some remembered] at answered ⊢
    rw [← Except.ok.inj answered]
    exact ⟨.refl _, remembered⟩

theorem exists_runFrom_labels (introspector : Introspector τ σ) (typeName : String)
    (start : Journal σ) :
    ∃ middle : Journal σ, middle.memo = start.memo ∧
      (labels introspector typeName).runFrom start =
        (Step.ask (introspector.memoized.labels typeName)).runFrom middle :=
  Step.exists_runFrom_announced _ _ _ _

/-- An answer of the introspector is known from then on. -/
theorem labels_answered {introspector : Introspector τ σ} {typeName : String}
    {start final : Journal σ} {result : List String}
    (ran : (labels introspector typeName).runFrom start = (.ok result, final)) :
    start.memo.labels.IncludedIn final.memo.labels ∧
      final.memo.labels.get? typeName = some result := by
  rcases exists_runFrom_labels introspector typeName start with ⟨middle, memoEq, asked⟩
  rw [asked] at ran
  rw [← memoEq]
  exact ask_labels_answered ran

theorem labels_computes (introspector : Introspector τ σ) (typeName : String) :
    (labels introspector typeName).Computes fun known => (known.get? typeName).getD [] := by
  intro start result final ran
  rcases labels_answered ran with ⟨kept, answered⟩
  refine ⟨kept, fun known included => ?_⟩
  have found := included typeName result answered
  simp [found]

theorem labels_establishes (introspector : Introspector τ σ) (typeName : String) :
    (labels introspector typeName).Establishes fun known => typeName ∈ known.keys := by
  intro start result final ran known included
  exact OrderedMap.mem_keys_of_get? (included typeName result (labels_answered ran).2)

end Registration

variable {τ σ : Type}

namespace Column

/-- The labels that a column's validator needs, among those that are known. -/
def neededLabels (registered : Entities τ) (known : KnownLabels) (column : Column τ) :
    List String :=
  match column.labelSource? registered with
  | some typeName => (known.get? typeName).getD []
  | none => []

/-- The validator of a column by the labels that are known, if there is one. -/
def derived? [DecidableEq τ] (registered : Entities τ) (policy : TextPolicy)
    (known : KnownLabels) (column : Column τ) : Option (Validator τ) :=
  (column.validator? registered policy (column.neededLabels registered known)).toOption.join

/-- Whether all labels that a column needs are known and its validator is calculated from them. -/
def IsAnswered [DecidableEq τ] (registered : Entities τ) (policy : TextPolicy)
    (known : KnownLabels) (column : Column τ) : Prop :=
  (∀ typeName, column.labelSource? registered = some typeName → typeName ∈ known.keys) ∧
    column.validator? registered policy (column.neededLabels registered known) =
      .ok (column.derived? registered policy known)

theorem validator?_of_derived? [DecidableEq τ] {registered : Entities τ} {policy : TextPolicy}
    {known : KnownLabels} {column : Column τ} {validator : Validator τ}
    (derived : column.derived? registered policy known = some validator) :
    column.validator? registered policy (column.neededLabels registered known) =
      .ok (some validator) := by
  unfold derived? at derived
  rw [Option.join_eq_some_iff] at derived
  rcases ran : column.validator? registered policy (column.neededLabels registered known) with
    fault | found
  · rw [ran] at derived
    cases derived
  · rw [ran] at derived
    cases derived
    rfl

end Column

namespace Registration.Emission

/-- Declares the validator of a column, or leaves the column out. -/
def declareColumn (derive : Column τ → Option (Validator τ)) (emission : Emission τ)
    (entry : Identifier × Column τ) : Emission τ :=
  match derive entry.2 with
  | some validator => { emission with catalog := emission.catalog.declare entry.1 validator }
  | none => { emission with excluded := emission.excluded ++ [entry.1] }

/-- Declares the validators of an entity and of its columns. -/
def declareEntity (derive : Column τ → Option (Validator τ)) (emission : Emission τ)
    (identifier : Identifier) (entity : Entity τ) : Emission τ :=
  if entity.isEnumeration then
    { emission with catalog := emission.catalog.declare identifier entity.labelsValidator }
  else
    entity.columns.entries.foldl (declareColumn derive)
      { emission with
        catalog := (emission.catalog.declare identifier entity.rowValidator).declare
          entity.insertIdentifier entity.insertValidator }

/-- Declares the validators of the entities of a batch in some order. -/
def ofBatch (derive : Column τ → Option (Validator τ)) (batch : Entities τ)
    (order : List Identifier) : Emission τ :=
  order.foldl (fun emission identifier =>
    match batch.get? identifier with
    | some entity => emission.declareEntity derive identifier entity
    | none => emission) ⟨.empty, []⟩

end Registration.Emission

namespace Registration

/-- Asks for the labels that a column's validator needs. -/
def neededLabels (introspector : Introspector τ σ) (registered : Entities τ)
    (column : Column τ) : Step σ (List String) :=
  match column.labelSource? registered with
  | some typeName => labels introspector typeName
  | none => pure []

/-- Declares the validator that was calculated for a column, or leaves the column out. -/
def declareOrExclude (emission : Emission τ) (entry : Identifier × Column τ) :
    Option (Validator τ) → Step σ (Emission τ)
  | some validator =>
      pure { emission with catalog := emission.catalog.declare entry.1 validator }
  | none => do
      Step.record (.underivable entry.2.identifier entry.2.typeName)
      pure { emission with excluded := emission.excluded ++ [entry.1] }

theorem neededLabels_computes (introspector : Introspector τ σ) (registered : Entities τ)
    (column : Column τ) :
    (neededLabels introspector registered column).Computes fun known =>
      column.neededLabels registered known := by
  unfold neededLabels Column.neededLabels
  rcases column.labelSource? registered with _ | typeName
  · exact Step.computes_pure []
  · exact labels_computes introspector typeName

theorem neededLabels_establishes (introspector : Introspector τ σ) (registered : Entities τ)
    (column : Column τ) :
    (neededLabels introspector registered column).Establishes fun known =>
      ∀ typeName, column.labelSource? registered = some typeName → typeName ∈ known.keys := by
  unfold neededLabels
  rcases column.labelSource? registered with _ | typeName
  · intro _ _ _ _ _ _ _ needed
    cases needed
  · intro start result final ran known included _ needed
    rw [← Option.some.inj needed]
    exact labels_establishes introspector typeName start result final ran known included

theorem declareOrExclude_computes (emission : Emission τ) (entry : Identifier × Column τ)
    (validator : Option (Validator τ)) :
    (declareOrExclude emission entry validator : Step σ (Emission τ)).Computes fun _ =>
      emission.declareColumn (fun _ => validator) entry := by
  rcases validator with _ | validator
  · exact Step.computes_bind (Step.computes_record _) fun _ => Step.computes_pure _
  · exact Step.computes_pure _

variable [DecidableEq τ]

theorem emitColumn_eq (introspector : Introspector τ σ) (policy : TextPolicy)
    (registered : Entities τ) (emission : Emission τ) (entry : Identifier × Column τ) :
    emitColumn introspector policy registered emission entry =
      neededLabels introspector registered entry.2 >>= fun labels =>
        Step.ofExcept ((entry.2.validator? registered policy labels).mapError
          RegistrationError.unbounded) >>= declareOrExclude emission entry := by
  unfold emitColumn neededLabels
  rcases entry.2.labelSource? registered with _ | typeName <;> rfl

section Compositional

variable {holds : ∀ {α : Type}, Step σ α → Prop} (compositional : Step.IsCompositional holds)
  {introspector : Introspector τ σ} (asked : ∀ typeName, holds (labels introspector typeName))
  (bounded : ∀ outcome : Except BoundFault (Option (Validator τ)),
    holds (Step.ofExcept (outcome.mapError RegistrationError.unbounded)))

include compositional asked bounded

theorem holds_emitColumn (policy : TextPolicy) (registered : Entities τ) (emission : Emission τ)
    (entry : Identifier × Column τ) :
    holds (emitColumn introspector policy registered emission entry) := by
  rw [emitColumn_eq]
  apply compositional.bind
  · unfold neededLabels
    rcases entry.2.labelSource? registered with _ | typeName
    · exact compositional.pure []
    · exact asked typeName
  · intro labels
    apply compositional.bind (bounded _)
    intro validator
    rcases validator with _ | validator
    · exact compositional.bind (compositional.record _) fun _ => compositional.pure _
    · exact compositional.pure _

/-- The declaration of validators is composed of questions for labels and of calculations. -/
theorem holds_emit (policy : TextPolicy) (registered batch : Entities τ)
    (order : List Identifier) :
    holds (emit introspector policy registered batch order) := by
  apply compositional.foldlM
  intro emission identifier
  rcases batch.get? identifier with _ | entity
  · exact compositional.pure emission
  · simp only [emitEntity]
    split
    · exact compositional.pure _
    · exact compositional.foldlM
        (holds_emitColumn compositional asked bounded policy registered) _

end Compositional

/-- Only what its columns need and derive decides about what is declared for a batch. -/
theorem emit_congr (introspector : Introspector τ σ) {policy : TextPolicy}
    {registered other left right : Entities τ} (same : left.SameAs right)
    (columns : ∀ owner entity listed column, left.get? owner = some entity →
      entity.columns.get? listed = some column →
        column.labelSource? registered = column.labelSource? other ∧
          ∀ labels, column.validator? registered policy labels =
            column.validator? other policy labels)
    (order : List Identifier) :
    emit introspector policy registered left order =
      emit introspector policy other right order := by
  apply Step.foldlM_congr
  intro owner _ emission
  rw [← same owner]
  rcases member : left.get? owner with _ | entity
  · rfl
  · have columnEq : ∀ entry ∈ entity.columns.entries, ∀ state : Emission τ,
        emitColumn introspector policy registered state entry =
          emitColumn introspector policy other state entry := by
      intro entry mem state
      have found := OrderedMap.get?_eq_some_iff_mem.mpr mem
      rcases columns owner entity entry.1 entry.2 member found with ⟨sources, validators⟩
      simp only [emitColumn, sources, validators]
    simp only [emitEntity, Step.foldlM_congr columnEq]

theorem emitColumn_computes (introspector : Introspector τ σ) (policy : TextPolicy)
    (registered : Entities τ) (emission : Emission τ) (entry : Identifier × Column τ) :
    (emitColumn introspector policy registered emission entry).Computes fun known =>
      emission.declareColumn (Column.derived? registered policy known) entry := by
  rw [emitColumn_eq]
  exact Step.computes_bind (neededLabels_computes introspector registered entry.2) fun labels =>
    Step.computes_bind (Step.computes_ofExcept (entry.2.validator? registered policy labels)
      RegistrationError.unbounded) (declareOrExclude_computes emission entry)

theorem emitColumn_establishes (introspector : Introspector τ σ) (policy : TextPolicy)
    (registered : Entities τ) (emission : Emission τ) (entry : Identifier × Column τ) :
    (emitColumn introspector policy registered emission entry).Establishes fun known =>
      entry.2.IsAnswered registered policy known := by
  intro start result final ran known included
  rw [emitColumn_eq] at ran
  rcases Step.runFrom_bind_eq_ok_iff.mp ran with ⟨labels, asked, labelsRan, ran⟩
  rcases Step.runFrom_bind_eq_ok_iff.mp ran with ⟨validator, _, validatorRan, declaredRan⟩
  rcases Step.runFrom_ofExcept_eq_ok_iff.mp validatorRan with ⟨calculated, rfl⟩
  have kept := (declareOrExclude_computes emission entry validator _ _ _ declaredRan).1.trans
    included
  have labelsEq := (neededLabels_computes _ _ _ _ _ _ labelsRan).2 known kept
  rw [mapError_eq_ok_iff, labelsEq] at calculated
  refine ⟨neededLabels_establishes _ _ _ _ _ _ labelsRan known kept, ?_⟩
  rw [Column.derived?, calculated]
  rfl

theorem emitEntity_computes (introspector : Introspector τ σ) (policy : TextPolicy)
    (registered : Entities τ) (emission : Emission τ) (identifier : Identifier)
    (entity : Entity τ) :
    (emitEntity introspector policy registered emission identifier entity).Computes fun known =>
      emission.declareEntity (Column.derived? registered policy known) identifier entity := by
  unfold emitEntity Emission.declareEntity
  split
  · exact Step.computes_pure _
  · exact Step.computes_foldlM (emitColumn_computes introspector policy registered) _

theorem emitEntity_establishes (introspector : Introspector τ σ) (policy : TextPolicy)
    (registered : Entities τ) (emission : Emission τ) (identifier : Identifier)
    {entity : Entity τ} (notEnumeration : entity.isEnumeration = false)
    {entry : Identifier × Column τ} (mem : entry ∈ entity.columns.entries) :
    (emitEntity introspector policy registered emission identifier entity).Establishes
      fun known => entry.2.IsAnswered registered policy known := by
  unfold emitEntity
  rw [notEnumeration]
  exact Step.establishes_foldlM (emitColumn_computes introspector policy registered) mem
    (fun emission => emitColumn_establishes introspector policy registered emission entry) _

theorem emitNext_computes (introspector : Introspector τ σ) (policy : TextPolicy)
    (registered batch : Entities τ) (emission : Emission τ) (identifier : Identifier) :
    (match batch.get? identifier with
      | some entity => emitEntity introspector policy registered emission identifier entity
      | none => pure emission).Computes fun known =>
        match batch.get? identifier with
        | some entity =>
            emission.declareEntity (Column.derived? registered policy known) identifier entity
        | none => emission := by
  rcases batch.get? identifier with _ | entity
  · exact Step.computes_pure emission
  · exact emitEntity_computes introspector policy registered emission identifier entity

/-- What is declared for a batch is a function of the labels that are known at the end. -/
theorem emit_computes (introspector : Introspector τ σ) (policy : TextPolicy)
    (registered batch : Entities τ) (order : List Identifier) :
    (emit introspector policy registered batch order).Computes fun known =>
      .ofBatch (Column.derived? registered policy known) batch order := by
  unfold emit Emission.ofBatch
  exact Step.computes_foldlM (emitNext_computes introspector policy registered batch) _

/-- A declared batch leaves nothing open about the columns of its entities. -/
theorem emit_establishes (introspector : Introspector τ σ) (policy : TextPolicy)
    (registered : Entities τ) {batch : Entities τ} {order : List Identifier}
    {identifier : Identifier} (listed : identifier ∈ order) {entity : Entity τ}
    (member : batch.get? identifier = some entity)
    (notEnumeration : entity.isEnumeration = false) {entry : Identifier × Column τ}
    (mem : entry ∈ entity.columns.entries) :
    (emit introspector policy registered batch order).Establishes fun known =>
      entry.2.IsAnswered registered policy known := by
  unfold emit
  refine Step.establishes_foldlM (emitNext_computes introspector policy registered batch) listed
    (fun emission => ?_) _
  rw [member]
  exact emitEntity_establishes introspector policy registered emission identifier
    notEnumeration mem

end Registration

namespace Entity

/-- The validator that belongs to the identifier of an entity. -/
def ownValidator (entity : Entity τ) : Validator τ :=
  if entity.isEnumeration then entity.labelsValidator else entity.rowValidator

/-- The declaration of complete rows; an enumeration has none. -/
def insertDeclarations (entity : Entity τ) : List (Identifier × Validator τ) :=
  if entity.isEnumeration then [] else [(entity.insertIdentifier, entity.insertValidator)]

/-- The declarations of the columns that have a validator. -/
def columnDeclarations (derive : Column τ → Option (Validator τ)) (entity : Entity τ) :
    List (Identifier × Validator τ) :=
  entity.columns.entries.filterMap fun entry => (derive entry.2).map fun validator =>
    (entry.1, validator)

/-- Everything that is declared for an entity. -/
def declarations (derive : Column τ → Option (Validator τ)) (identifier : Identifier)
    (entity : Entity τ) : List (Identifier × Validator τ) :=
  (identifier, entity.ownValidator) ::
    (entity.insertDeclarations ++ entity.columnDeclarations derive)

theorem columns_entries_of_isEnumeration {entity : Entity τ}
    (enumeration : entity.isEnumeration = true) : entity.columns.entries = [] := by
  have kind_eq : entity.kind = .enumeration := beq_iff_eq.mp enumeration
  exact List.isEmpty_iff.mp (entity.columns_isEmpty_of_enumeration kind_eq)

theorem valuesAt_columnDeclarations (derive : Column τ → Option (Validator τ))
    (entity : Entity τ) (listed : Identifier) :
    OrderedMap.valuesAt listed (entity.columnDeclarations derive) =
      ((entity.columns.get? listed).bind derive).toList :=
  OrderedMap.valuesAt_filterMap listed derive entity.columns.nodup_keys

/-- What an entity declares for an identifier, in order: itself, its complete rows, a column. -/
theorem valuesAt_declarations (derive : Column τ → Option (Validator τ))
    (owner listed : Identifier) (entity : Entity τ) :
    OrderedMap.valuesAt listed (entity.declarations derive owner) =
      (if owner = listed then [entity.ownValidator] else []) ++
        ((if entity.isEnumeration = false ∧ entity.insertIdentifier = listed then
            [entity.insertValidator] else []) ++
          ((entity.columns.get? listed).bind derive).toList) := by
  have front : entity.declarations derive owner =
      [(owner, entity.ownValidator)] ++
        (entity.insertDeclarations ++ entity.columnDeclarations derive) := rfl
  rw [front, OrderedMap.valuesAt_append, OrderedMap.valuesAt_append,
    valuesAt_columnDeclarations]
  congr 1
  · by_cases same : owner = listed <;> simp [OrderedMap.valuesAt, same]
  · congr 1
    unfold insertDeclarations
    rcases entity.isEnumeration
    · by_cases same : entity.insertIdentifier = listed <;> simp [OrderedMap.valuesAt, same]
    · rfl

end Entity

/-- Everything that is declared for a batch in some order. -/
def Entities.declarations (derive : Column τ → Option (Validator τ)) (batch : Entities τ)
    (order : List Identifier) : List (Identifier × Validator τ) :=
  order.flatMap fun identifier =>
    match batch.get? identifier with
    | some entity => entity.declarations derive identifier
    | none => []

/-- The columns of a batch, in the order in which they are declared. -/
def Entities.columnsAlong (batch : Entities τ) (order : List Identifier) :
    List (Identifier × Column τ) :=
  order.flatMap fun identifier =>
    match batch.get? identifier with
    | some entity => entity.columns.entries
    | none => []

theorem Entities.mem_columnsAlong_iff {batch : Entities τ} {order : List Identifier}
    {entry : Identifier × Column τ} :
    entry ∈ batch.columnsAlong order ↔ ∃ owner ∈ order, ∃ entity,
      batch.get? owner = some entity ∧ entity.columns.get? entry.1 = some entry.2 := by
  simp only [columnsAlong, List.mem_flatMap]
  apply exists_congr
  intro owner
  apply and_congr_right
  intro _
  rcases batch.get? owner with _ | entity
  · simp
  · simp [OrderedMap.get?_eq_some_iff_mem]

namespace Registration.Emission

theorem declarations_foldl_declareColumn (derive : Column τ → Option (Validator τ))
    (entries : List (Identifier × Column τ)) (emission : Emission τ) :
    (entries.foldl (declareColumn derive) emission).catalog.declarations =
      emission.catalog.declarations.insertAll (entries.filterMap fun entry =>
        (derive entry.2).map fun validator => (entry.1, validator)) := by
  induction entries generalizing emission with
  | nil => rfl
  | cons entry rest ih =>
      rw [List.foldl_cons, ih, List.filterMap_cons]
      unfold declareColumn
      rcases derive entry.2 with _ | validator <;> rfl

theorem declarations_declareEntity (derive : Column τ → Option (Validator τ))
    (emission : Emission τ) (identifier : Identifier) (entity : Entity τ) :
    (emission.declareEntity derive identifier entity).catalog.declarations =
      emission.catalog.declarations.insertAll (entity.declarations derive identifier) := by
  unfold declareEntity Entity.declarations Entity.ownValidator Entity.insertDeclarations
  split
  · next enumeration =>
    have noColumns : entity.columnDeclarations derive = [] := by
      rw [Entity.columnDeclarations, Entity.columns_entries_of_isEnumeration enumeration]
      rfl
    rw [noColumns]
    rfl
  · rw [declarations_foldl_declareColumn]
    rfl

theorem declarations_ofBatch (derive : Column τ → Option (Validator τ)) (batch : Entities τ)
    (order : List Identifier) :
    (ofBatch derive batch order).catalog.declarations =
      .ofList (batch.declarations derive order) := by
  have general (emission : Emission τ) :
      (order.foldl (fun emission identifier =>
        match batch.get? identifier with
        | some entity => emission.declareEntity derive identifier entity
        | none => emission) emission).catalog.declarations =
        emission.catalog.declarations.insertAll (batch.declarations derive order) := by
    unfold Entities.declarations
    induction order generalizing emission with
    | nil => rfl
    | cons identifier rest ih =>
        rw [List.foldl_cons, ih, List.flatMap_cons, OrderedMap.insertAll_append]
        rcases batch.get? identifier with _ | entity
        · rfl
        · rw [← declarations_declareEntity]
  exact general _

theorem excluded_foldl_declareColumn (derive : Column τ → Option (Validator τ))
    (entries : List (Identifier × Column τ)) (emission : Emission τ) :
    (entries.foldl (declareColumn derive) emission).excluded =
      emission.excluded ++
        (entries.filter fun entry => (derive entry.2).isNone).map Prod.fst := by
  induction entries generalizing emission with
  | nil => simp
  | cons entry rest ih =>
      rw [List.foldl_cons, ih]
      unfold declareColumn
      rcases derived : derive entry.2 with _ | validator <;> simp [derived]

theorem excluded_declareEntity (derive : Column τ → Option (Validator τ))
    (emission : Emission τ) (identifier : Identifier) (entity : Entity τ) :
    (emission.declareEntity derive identifier entity).excluded =
      emission.excluded ++
        (entity.columns.entries.filter fun entry => (derive entry.2).isNone).map Prod.fst := by
  unfold declareEntity
  split
  · next enumeration =>
    simp [Entity.columns_entries_of_isEnumeration enumeration]
  · exact excluded_foldl_declareColumn derive _ _

/-- The columns that are left out are those without a validator, in the order of declaration. -/
theorem excluded_ofBatch (derive : Column τ → Option (Validator τ)) (batch : Entities τ)
    (order : List Identifier) :
    (ofBatch derive batch order).excluded =
      ((batch.columnsAlong order).filter fun entry => (derive entry.2).isNone).map Prod.fst := by
  have general (emission : Emission τ) :
      (order.foldl (fun emission identifier =>
        match batch.get? identifier with
        | some entity => emission.declareEntity derive identifier entity
        | none => emission) emission).excluded =
        emission.excluded ++
          ((batch.columnsAlong order).filter fun entry => (derive entry.2).isNone).map
            Prod.fst := by
    unfold Entities.columnsAlong
    induction order generalizing emission with
    | nil => simp
    | cons identifier rest ih =>
        rw [List.foldl_cons, ih, List.flatMap_cons, List.filter_append, List.map_append]
        rcases batch.get? identifier with _ | entity
        · simp
        · simp [excluded_declareEntity]
  exact general _

end Registration.Emission

end EntityCatalog
