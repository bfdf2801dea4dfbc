import EntityCatalog.Registration
import EntityCatalog.Proofs.OrderedMap

/-!
# The stages of a registration

A registration that succeeds has passed all of its stages. `Registration.Course` holds what each of
them gave: the entities as they are reported, the batch that is made of them, the order in which
they depend on each other, and what is declared for them. Every statement about successful
registrations starts from such a course.

The effective registry of a registration is the prior one overlaid by its batch. The batch is
overlaid twice on the way, before and after it inherits transforms; this makes no difference
because its identifiers stay the same.
-/

namespace EntityCatalog

namespace Introspector

variable {τ σ : Type} {introspector : Introspector τ σ} {memo : Memo σ}

section Memoized

variable {table scope typeName : String}

theorem memoized_describe_of_some {report : ReportedEntity}
    (remembered : memo.reports.get? (scope, table) = some report) (options : EntityOptions τ) :
    introspector.memoized.describe table scope options memo = (.ok report, memo) := by
  simp only [memoized, remembered]

theorem memoized_describe_of_none (unknown : memo.reports.get? (scope, table) = none)
    (options : EntityOptions τ) :
    introspector.memoized.describe table scope options memo =
      ((introspector.describe table scope options memo.source).1,
        memo.keepReport (scope, table) (introspector.describe table scope options memo.source).2
          (introspector.describe table scope options memo.source).1) := by
  simp only [memoized, unknown]

theorem memoized_labels_of_some {labels : List String}
    (remembered : memo.labels.get? typeName = some labels) :
    introspector.memoized.labels typeName memo = (.ok labels, memo) := by
  simp only [memoized, remembered]

theorem memoized_labels_of_none (unknown : memo.labels.get? typeName = none) :
    introspector.memoized.labels typeName memo =
      ((introspector.labels typeName memo.source).1,
        memo.keepLabels typeName (introspector.labels typeName memo.source).2
          (introspector.labels typeName memo.source).1) := by
  simp only [memoized, unknown]

end Memoized

end Introspector

namespace Step

variable {σ α β : Type}

/-- The outcome of a part that starts with a journal, and the journal that it leaves. -/
def runFrom (step : Step σ α) (start : Journal σ) : Except RegistrationError α × Journal σ :=
  step.run start

/-- A part that fails ends everything. -/
theorem runFrom_bind (step : Step σ α) (next : α → Step σ β) (start : Journal σ) :
    (step >>= next).runFrom start =
      match step.runFrom start with
      | (.ok value, middle) => (next value).runFrom middle
      | (.error error, middle) => (.error error, middle) := by
  change (ExceptT.bindCont next (step.runFrom start).1).run (step.runFrom start).2 = _
  rcases step.runFrom start with ⟨error | value, middle⟩ <;> rfl

theorem runFrom_map (function : α → β) (step : Step σ α) (start : Journal σ) :
    (function <$> step).runFrom start =
      ((step.runFrom start).1.map function, (step.runFrom start).2) := by
  rw [map_eq_pure_bind, runFrom_bind]
  rcases step.runFrom start with ⟨error | value, middle⟩ <;> rfl

theorem runFrom_bind_eq_ok_iff {step : Step σ α} {next : α → Step σ β} {start final : Journal σ}
    {result : β} :
    (step >>= next).runFrom start = (.ok result, final) ↔
      ∃ value middle, step.runFrom start = (.ok value, middle) ∧
        (next value).runFrom middle = (.ok result, final) := by
  rw [runFrom_bind]
  rcases step.runFrom start with ⟨error | value, middle⟩
  · simp
  · constructor
    · intro rest
      exact ⟨value, middle, rfl, rest⟩
    · rintro ⟨_, _, ⟨⟩, rest⟩
      exact rest

theorem runFrom_pure_eq_ok_iff {value result : α} {start final : Journal σ} :
    (pure value : Step σ α).runFrom start = (.ok result, final) ↔
      value = result ∧ start = final := by
  change ((Except.ok value : Except RegistrationError α), start) = (.ok result, final) ↔ _
  simp

theorem runFrom_ofExcept_eq_ok_iff {outcome : Except RegistrationError α} {result : α}
    {start final : Journal σ} :
    (ofExcept outcome).runFrom start = (.ok result, final) ↔
      outcome = .ok result ∧ start = final := by
  change (outcome, start) = (.ok result, final) ↔ _
  simp

theorem runFrom_record_eq_ok_iff {event : Event} {result : Unit} {start final : Journal σ} :
    (record event).runFrom start = (.ok result, final) ↔
      { start with events := start.events ++ [event] } = final := by
  change ((Except.ok () : Except RegistrationError Unit), _) = (.ok result, final) ↔ _
  simp

theorem runFrom_recordAll_eq_ok_iff {events : List Event} {result : Unit}
    {start final : Journal σ} :
    (recordAll events).runFrom start = (.ok result, final) ↔
      { start with events := start.events ++ events } = final := by
  change ((Except.ok () : Except RegistrationError Unit), _) = (.ok result, final) ↔ _
  simp

theorem runFrom_timed_eq_ok_iff {operation : String} {step : Step σ α} {result : α}
    {start final : Journal σ} :
    (timed operation step).runFrom start = (.ok result, final) ↔
      ∃ middle, step.runFrom start = (.ok result, middle) ∧
        { middle with events := middle.events ++ [.timed operation] } = final := by
  change ((step.runFrom start).1, { (step.runFrom start).2 with
    events := (step.runFrom start).2.events ++ [.timed operation] }) = (.ok result, final) ↔ _
  simp [Prod.ext_iff]

theorem eq_of_runFrom_eq_ok {step : Step σ α} {start final otherFinal : Journal σ}
    {result other : α} (ran : step.runFrom start = (.ok result, final))
    (otherRan : step.runFrom start = (.ok other, otherFinal)) : result = other := by
  have same := ran.symm.trans otherRan
  exact Except.ok.inj (Prod.mk.inj same).1

/-- A question that is announced or not is put to the same memory. -/
theorem exists_runFrom_announced (announces : Journal σ → Bool) (event : Event)
    (step : Step σ α) (start : Journal σ) :
    ∃ middle : Journal σ, middle.memo = start.memo ∧
      runFrom (do
        let journal ← get
        if announces journal then record event
        step) start = step.runFrom middle := by
  have got : (get : Step σ (Journal σ)).runFrom start = (.ok start, start) := rfl
  rw [runFrom_bind]
  simp only [got]
  split
  · exact ⟨{ start with events := start.events ++ [event] }, rfl, rfl⟩
  · exact ⟨start, rfl, rfl⟩

/-- A property of parts of a registration that carries over to what is composed of them. -/
structure IsCompositional (holds : ∀ {α : Type}, Step σ α → Prop) : Prop where
  pure {α : Type} (value : α) : holds (pure value : Step σ α)
  bind {α β : Type} {step : Step σ α} {next : α → Step σ β} :
    holds step → (∀ value, holds (next value)) → holds (step >>= next)
  record (event : Event) : holds (record event)

theorem IsCompositional.foldlM {holds : ∀ {α : Type}, Step σ α → Prop}
    (compositional : IsCompositional holds) {items : List α} {effect : β → α → Step σ β}
    (each : ∀ state item, holds (effect state item)) (initial : β) :
    holds (items.foldlM effect initial) := by
  induction items generalizing initial with
  | nil => exact compositional.pure initial
  | cons item rest ih =>
      rw [List.foldlM_cons]
      exact compositional.bind (each initial item) ih

/-- Whether a part of a registration keeps a property of the memory, however it ends. -/
def Keeps (step : Step σ α) (holds : Introspector.Memo σ → Prop) : Prop :=
  ∀ start : Journal σ, holds start.memo → holds (step.runFrom start).2.memo

theorem isCompositional_keeps (holds : Introspector.Memo σ → Prop) :
    IsCompositional fun {_} (step : Step σ _) => step.Keeps holds where
  pure _ _ held := held
  bind {_ _ step _} first second := by
    intro start held
    have middleHeld := first start held
    rw [runFrom_bind]
    rcases ran : step.runFrom start with ⟨error | value, middle⟩
    · rwa [ran] at middleHeld
    · rw [ran] at middleHeld
      exact second value middle middleHeld
  record _ _ held := held

theorem keeps_ofExcept (outcome : Except RegistrationError α)
    (holds : Introspector.Memo σ → Prop) : (ofExcept outcome : Step σ α).Keeps holds :=
  fun _ held => held

theorem keeps_announced {step : Step σ α} {holds : Introspector.Memo σ → Prop}
    (announces : Journal σ → Bool) (event : Event) (asked : step.Keeps holds) :
    Keeps (do
      let journal ← get
      if announces journal then record event
      step) holds := by
  intro start held
  rcases exists_runFrom_announced announces event step start with ⟨middle, memoEq, ran⟩
  rw [ran]
  apply asked
  rw [memoEq]
  exact held

theorem foldlM_congr {items : List α} {effect other : β → α → Step σ β}
    (same : ∀ item ∈ items, ∀ state, effect state item = other state item) (initial : β) :
    items.foldlM effect initial = items.foldlM other initial := by
  induction items generalizing initial with
  | nil => rfl
  | cons item rest ih =>
      rw [List.foldlM_cons, List.foldlM_cons, same item List.mem_cons_self]
      congr 1
      funext state
      exact ih (fun later mem => same later (List.mem_cons_of_mem _ mem)) state

end Step

variable {τ σ : Type}

@[simp]
theorem keys_inheritTransforms (registered batch : Entities τ) :
    (inheritTransforms registered batch).keys = batch.keys :=
  OrderedMap.keys_mapValues _ batch

/-- Inheriting transforms leaves nothing to see of a batch that was overlaid before. -/
theorem overlay_inheritTransforms (prior registered batch : Entities τ) :
    (prior.overlay batch).overlay (inheritTransforms registered batch) =
      prior.overlay (inheritTransforms registered batch) :=
  OrderedMap.overlay_overlay_of_keys_eq prior (keys_inheritTransforms registered batch).symm

/-- What the stages of a successful registration gave. -/
structure Registration.Course [DecidableEq τ] [Transform τ] (prior : Entities τ)
    (introspector : Introspector τ σ) (declarations : List (Declaration τ))
    (policy : RegistrationPolicy) (start : Journal σ) (registration : Registration τ)
    (final : Journal σ) where
  /-- The entities as they are reported. -/
  reported : Entities τ
  /-- The order of declaration. -/
  order : List Identifier
  emission : Registration.Emission τ
  /-- What is known once all entities are reported. -/
  described : Journal σ
  /-- What is known before the first validator is declared. -/
  checked : Journal σ
  /-- What is known after the last validator is declared. -/
  emitted : Journal σ
  normalized : (Registration.normalize introspector declarations .empty).runFrom start =
    (.ok reported, described)
  entities_eq : registration.entities =
    inheritTransforms (prior.overlay (resolveElementTypes reported prior))
      (resolveElementTypes reported prior)
  consistent : inconsistency? registration.entities = none
  ordered : (referenceGraph registration.entities
    (prior.overlay registration.entities)).dependencyOrder? = some order
  checked_memo : checked.memo = described.memo
  declared : (Registration.emit introspector policy.text (prior.overlay registration.entities)
    registration.entities order).runFrom checked = (.ok emission, emitted)
  final_memo : final.memo = emitted.memo
  catalog_eq : registration.catalog = emission.catalog
  excluded_eq : registration.excluded = emission.excluded
  committed_eq : registration.committed = policy.commit

namespace Registration

theorem check_eq_ok_iff {batch : Entities τ} {result : Unit} :
    check batch = .ok result ↔ inconsistency? batch = none := by
  unfold check
  split <;> simp_all

theorem order_eq_ok_iff {graph : ReferenceGraph} {listing : List Identifier} :
    order graph = .ok listing ↔ graph.dependencyOrder? = some listing := by
  unfold order
  split <;> simp_all

/-- The description of a batch is composed of questions for reports and of calculations. -/
theorem holds_normalize {holds : ∀ {α : Type}, Step σ α → Prop}
    (compositional : Step.IsCompositional holds) {introspector : Introspector τ σ}
    (described : ∀ declaration, holds (report introspector declaration))
    (calculated : ∀ {α : Type} (outcome : Except RegistrationError α),
      holds (Step.ofExcept outcome : Step σ α))
    (declarations : List (Declaration τ)) (initial : Entities τ) :
    holds (normalize introspector declarations initial) := by
  induction declarations generalizing initial with
  | nil => exact compositional.pure initial
  | cons declaration rest ih =>
      rw [normalize]
      dsimp only
      split
      · exact calculated (.error (.duplicateEntity declaration.identifier))
      · apply compositional.bind (described declaration)
        intro report
        apply compositional.bind (calculated _)
        intro entity
        exact compositional.bind (compositional.record _) fun _ => ih _

variable [DecidableEq τ] [Transform τ]

/-- A preparation that succeeds has passed every stage. -/
theorem nonempty_course_of_prepare {prior : Entities τ} {introspector : Introspector τ σ}
    {declarations : List (Declaration τ)} {policy : RegistrationPolicy}
    {start final : Journal σ} {registration : Registration τ}
    (prepared : (prepare prior introspector declarations policy).runFrom start =
      (.ok registration, final)) :
    Nonempty (Course prior introspector declarations policy start registration final) := by
  unfold prepare at prepared
  simp only [Step.runFrom_bind_eq_ok_iff, Step.runFrom_timed_eq_ok_iff,
    Step.runFrom_recordAll_eq_ok_iff, Step.runFrom_record_eq_ok_iff,
    Step.runFrom_ofExcept_eq_ok_iff, Step.runFrom_pure_eq_ok_iff, check_eq_ok_iff,
    order_eq_ok_iff] at prepared
  rcases prepared with ⟨reported, _, ⟨described, normalized, rfl⟩, _, _, rfl, _, _,
    ⟨consistent, rfl⟩, _, checked, recorded, order, _, ⟨ordered, rfl⟩, emission, _,
    ⟨emitted, declared, rfl⟩, rfl, rfl⟩
  rw [overlay_inheritTransforms] at ordered declared
  exact ⟨{
    reported, order, emission, described
    checked, emitted, normalized
    entities_eq := rfl
    consistent, ordered
    checked_memo := by rw [← recorded]
    declared
    final_memo := rfl
    catalog_eq := rfl
    excluded_eq := rfl
    committed_eq := rfl }⟩

/-- A preparation succeeds if every stage does. -/
theorem outcome_prepare_of_stages {prior : Entities τ} {introspector : Introspector τ σ}
    {declarations : List (Declaration τ)} {policy : RegistrationPolicy}
    {start described : Journal σ} {reported batch : Entities τ} {order : List Identifier}
    {emission : Emission τ}
    (normalized : (normalize introspector declarations .empty).runFrom start =
      (.ok reported, described))
    (batch_eq : batch = inheritTransforms (prior.overlay (resolveElementTypes reported prior))
      (resolveElementTypes reported prior))
    (consistent : inconsistency? batch = none)
    (ordered : (referenceGraph batch (prior.overlay batch)).dependencyOrder? = some order)
    (declared : ∀ checked : Journal σ, checked.memo = described.memo →
      ((emit introspector policy.text (prior.overlay batch) batch order).runFrom checked).1 =
        .ok emission) :
    ((prepare prior introspector declarations policy).runFrom start).1 =
      .ok ⟨batch, emission.catalog, emission.excluded, policy.commit⟩ := by
  have ran : ∃ final, (prepare prior introspector declarations policy).runFrom start =
      (.ok ⟨batch, emission.catalog, emission.excluded, policy.commit⟩, final) := by
    unfold prepare
    simp only [Step.runFrom_bind_eq_ok_iff, Step.runFrom_timed_eq_ok_iff,
      Step.runFrom_recordAll_eq_ok_iff, Step.runFrom_record_eq_ok_iff,
      Step.runFrom_ofExcept_eq_ok_iff, Step.runFrom_pure_eq_ok_iff, check_eq_ok_iff,
      order_eq_ok_iff, overlay_inheritTransforms]
    subst batch_eq
    refine ⟨_, reported, _, ⟨described, normalized, rfl⟩, (), _, rfl, (), _, ⟨consistent, rfl⟩, (),
      _, rfl, order, _, ⟨ordered, rfl⟩, emission, _, ⟨_, Prod.ext (declared _ rfl) rfl, rfl⟩, rfl,
      rfl⟩
  rcases ran with ⟨final, ran⟩
  rw [ran]

end Registration

end EntityCatalog
