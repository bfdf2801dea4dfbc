import EntityCatalog.Batch.Consistency
import EntityCatalog.Batch.InheritedTransforms
import EntityCatalog.Batch.Normalization
import EntityCatalog.Catalog
import EntityCatalog.Derivation
import EntityCatalog.Event
import EntityCatalog.Introspector
import EntityCatalog.ReferenceGraph.Cycle
import EntityCatalog.Registry
import EntityCatalog.Text.Order

/-!
# Registration

A registration describes and normalizes the declared entities, looks up the element types of
arrays, lets columns inherit transforms, checks the batch, orders it so that what is referred to
comes first, and declares the validators of its entities and columns. Only then is the batch
merged into the registry, if at all: whatever fails before leaves the registry as it was. Each
question is put to the introspector until it is answered, and no more within one registration.
-/

namespace EntityCatalog

/-- Why a registration failed. -/
inductive RegistrationError where
  /-- An entity is declared twice. -/
  | duplicateEntity (identifier : Identifier)
  | introspection (error : IntrospectionError)
  /-- A report makes no entity. -/
  | invalidRecord (error : RecordError)
  | inconsistent (error : Inconsistency)
  /-- Entities refer to each other in circles. -/
  | cyclicReferences (cycles : List Cycle)
  /-- It is not known how a column bounds the length of texts. -/
  | unbounded (fault : BoundFault)
deriving DecidableEq, Repr

/-- The wording of the refusal of circles. -/
def cyclicReferencesMessage (cycles : List Cycle) : String :=
  "Cyclic type references detected: " ++ "; ".intercalate (cycles.map Cycle.text)

/-- The wording of the refusal of a second declaration of an entity by its written form. -/
def duplicateEntityMessage (entity : String) : String :=
  "Entity '" ++ entity ++ "' is declared more than once in the same registration call."

/-- The wording of a registration error; a refused record is known by its title. -/
def RegistrationError.message : RegistrationError → String
  | .duplicateEntity identifier => duplicateEntityMessage identifier.text
  | .introspection error => error.message
  | .invalidRecord error => error.title
  | .inconsistent error => error.message
  | .cyclicReferences cycles => cyclicReferencesMessage cycles
  | .unbounded fault => fault.message

/-- How a registration is carried out. -/
structure RegistrationPolicy where
  /-- Whether the batch is merged into the registry. -/
  commit : Bool
  text : TextPolicy
deriving DecidableEq

/-- The outcome of a successful registration. -/
structure Registration (τ : Type) where
  /-- The batch as it was merged, or would have been merged. -/
  entities : Entities τ
  /-- The declared validators, those that are referred to first. -/
  catalog : Catalog τ
  /-- The columns without a validator, in the order of declaration. -/
  excluded : List Identifier
  committed : Bool

/-- What changes while a registration goes on: what is remembered, and the events so far. -/
structure Journal (σ : Type) where
  memo : Introspector.Memo σ
  events : List Event

/-- A part of a registration. -/
abbrev Step (σ α : Type) := ExceptT RegistrationError (StateM (Journal σ)) α

namespace Step

variable {σ α : Type}

/-- The outcome of a part without effects. -/
def ofExcept (outcome : Except RegistrationError α) : Step σ α := ExceptT.mk (pure outcome)

/-- Records an event. -/
def record (event : Event) : Step σ Unit :=
  modify fun journal => { journal with events := journal.events ++ [event] }

/-- Records several events. -/
def recordAll (events : List Event) : Step σ Unit :=
  modify fun journal => { journal with events := journal.events ++ events }

/-- Carries out a part and records that it was timed, also if it fails. -/
def timed (operation : String) (step : Step σ α) : Step σ α :=
  ExceptT.mk do
    let result ← step.run
    modify fun journal => { journal with events := journal.events ++ [.timed operation] }
    pure result

/-- Puts a question to the memory of the introspector. -/
def ask (question : Introspector.Memo σ →
    Except IntrospectionError α × Introspector.Memo σ) : Step σ α :=
  ExceptT.mk fun journal =>
    let (answer, memo) := question journal.memo
    (answer.mapError .introspection, { journal with memo })

end Step

namespace Registration

variable {τ σ : Type}

/-- The report of a declared entity. -/
def report (introspector : Introspector τ σ) (declaration : Declaration τ) :
    Step σ ReportedEntity := do
  let journal ← get
  if !journal.memo.reports.contains (declaration.scope, declaration.tableName) then
    Step.record (.describing declaration.tableName declaration.scope)
  Step.ask (introspector.memoized.describe declaration.tableName declaration.scope
    declaration.options)

/-- The labels of an enumeration type. -/
def labels (introspector : Introspector τ σ) (typeName : String) : Step σ (List String) := do
  let journal ← get
  if !journal.memo.labels.contains typeName then
    Step.record (.listingLabels typeName)
  Step.ask (introspector.memoized.labels typeName)

/-- Adds the entities of some declarations to a batch, one by one. -/
def normalize (introspector : Introspector τ σ) :
    List (Declaration τ) → Entities τ → Step σ (Entities τ)
  | [], batch => pure batch
  | declaration :: rest, batch => do
      if batch.contains declaration.identifier then
        throw (.duplicateEntity declaration.identifier)
      let report ← report introspector declaration
      let entity ← Step.ofExcept
        ((Entity.ofReport report declaration).mapError RegistrationError.invalidRecord)
      Step.record
        (.normalized entity.kind entity.identifier entity.name entity.columns.size)
      normalize introspector rest (batch.insert declaration.identifier entity)

/-- What has been declared so far, and the columns left out. -/
structure Emission (τ : Type) where
  catalog : Catalog τ
  excluded : List Identifier

/-- Declares the validator of a column, or leaves the column out if it has none. -/
def emitColumn [DecidableEq τ] (introspector : Introspector τ σ) (policy : TextPolicy)
    (registered : Entities τ) (emission : Emission τ) (entry : Identifier × Column τ) :
    Step σ (Emission τ) := do
  let labels ← match entry.2.labelSource? registered with
    | some typeName => labels introspector typeName
    | none => pure []
  let validator ← Step.ofExcept
    ((entry.2.validator? registered policy labels).mapError RegistrationError.unbounded)
  match validator with
  | some validator =>
      pure { emission with catalog := emission.catalog.declare entry.1 validator }
  | none =>
      Step.record (.underivable entry.2.identifier entry.2.typeName)
      pure { emission with excluded := emission.excluded ++ [entry.1] }

/-- Declares the validators of an entity and of its columns. -/
def emitEntity [DecidableEq τ] (introspector : Introspector τ σ) (policy : TextPolicy)
    (registered : Entities τ) (emission : Emission τ) (identifier : Identifier)
    (entity : Entity τ) : Step σ (Emission τ) :=
  if entity.isEnumeration then
    pure { emission with catalog := emission.catalog.declare identifier entity.labelsValidator }
  else
    let catalog := (emission.catalog.declare identifier entity.rowValidator).declare
      entity.insertIdentifier entity.insertValidator
    entity.columns.entries.foldlM (emitColumn introspector policy registered)
      { emission with catalog }

/-- Declares the validators of the entities of a batch in some order; others are passed over. -/
def emit [DecidableEq τ] (introspector : Introspector τ σ) (policy : TextPolicy)
    (registered batch : Entities τ) (order : List Identifier) : Step σ (Emission τ) :=
  order.foldlM (fun emission identifier =>
    match batch.get? identifier with
    | some entity => emitEntity introspector policy registered emission identifier entity
    | none => pure emission) ⟨.empty, []⟩

/-- The order of declaration, or the circles that prevent one. -/
def order (graph : ReferenceGraph) : Except RegistrationError (List Identifier) :=
  match graph.dependencyOrder? with
  | some listing => .ok listing
  | none => .error (.cyclicReferences graph.cycles)

/-- Fails if a batch is inconsistent. -/
def check (batch : Entities τ) : Except RegistrationError Unit :=
  match inconsistency? batch with
  | some error => .error (.inconsistent error)
  | none => .ok ()

/-- The name under which normalization is timed. -/
def normalizeOperation : String := "registry.normalize"

/-- The name under which the declaration of validators is timed. -/
def emitOperation : String := "registry.emit"

/-- A registration up to the point where the batch would be merged. -/
def prepare [DecidableEq τ] [Transform τ] (prior : Entities τ)
    (introspector : Introspector τ σ) (declarations : List (Declaration τ))
    (policy : RegistrationPolicy) : Step σ (Registration τ) := do
  let reported ← Step.timed normalizeOperation (normalize introspector declarations .empty)
  let resolved := resolveElementTypes reported prior
  let overlaid := prior.overlay resolved
  Step.recordAll ((inheritances overlaid resolved).map fun (column, enumeration, transform) =>
    .inherited column (Transform.name transform) enumeration)
  let batch := inheritTransforms overlaid resolved
  let registered := overlaid.overlay batch
  Step.ofExcept (check batch)
  Step.record (.consistent batch.size)
  let order ← Step.ofExcept (order (referenceGraph batch registered))
  let emission ← Step.timed emitOperation
    (emit introspector policy.text registered batch order)
  pure
    { entities := batch, catalog := emission.catalog, excluded := emission.excluded,
      committed := policy.commit }

/-- The events that end a successful registration. -/
def closingEvents (registry : Registry τ) (registration : Registration τ) : List Event :=
  let merging : Event :=
    if registration.committed then
      .merged registration.entities.size (registry.merge registration.entities).size
    else .notMerged registration.entities.size
  let written := Text.sorted (registration.entities.keys.map Identifier.text)
  [merging, .registered written registration.catalog.size registration.excluded
    registration.committed]

end Registration

/-- What a registration leaves: its outcome, the registry, the introspector's state, the events. -/
structure RegistrationReport (τ σ : Type) where
  outcome : Except RegistrationError (Registration τ)
  registry : Registry τ
  source : σ
  events : List Event

/-- Registers declared entities: merges them if the policy says so and nothing fails. -/
def Registry.register {τ σ : Type} [DecidableEq τ] [Transform τ] (registry : Registry τ)
    (introspector : Introspector τ σ) (source : σ) (declarations : List (Declaration τ))
    (policy : RegistrationPolicy) : RegistrationReport τ σ :=
  let start : Journal σ := ⟨.fresh source, []⟩
  match (Registration.prepare registry.entities introspector declarations policy).run start with
  | (.error error, journal) =>
      { outcome := .error error, registry, source := journal.memo.source,
        events := journal.events }
  | (.ok registration, journal) =>
      { outcome := .ok registration
        registry :=
          if registration.committed then registry.merge registration.entities else registry
        source := journal.memo.source
        events := journal.events ++ registration.closingEvents registry }

end EntityCatalog
