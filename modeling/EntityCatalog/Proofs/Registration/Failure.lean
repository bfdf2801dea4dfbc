import EntityCatalog.Proofs.Registration.Emission

/-!
# Where a registration stops

A registration that fails has passed all stages before the one that failed: `Registration.Stops`
lists the ways in which it can end. Each kind of error belongs to one stage. In particular the
declaration of validators, which comes last, fails for an unanswered question or an unknown bound
only, so a refused circle of references is always that of the batch.
-/

namespace EntityCatalog

variable {τ σ α β : Type}

namespace Step

variable {step : Step σ α} {start final : Journal σ} {error : RegistrationError}

theorem runFrom_bind_eq_error_iff {next : α → Step σ β} :
    (step >>= next).runFrom start = (.error error, final) ↔
      step.runFrom start = (.error error, final) ∨
        ∃ value middle, step.runFrom start = (.ok value, middle) ∧
          (next value).runFrom middle = (.error error, final) := by
  rw [runFrom_bind]
  rcases step.runFrom start with ⟨stopped | value, middle⟩ <;> simp

theorem runFrom_pure_ne_error {value : α} :
    (pure value : Step σ α).runFrom start ≠ (.error error, final) := by
  intro ran
  cases ran

theorem runFrom_ofExcept_eq_error_iff {outcome : Except RegistrationError α} :
    (ofExcept outcome).runFrom start = (.error error, final) ↔
      outcome = .error error ∧ start = final := by
  change (outcome, start) = (.error error, final) ↔ _
  simp

theorem runFrom_record_ne_error {event : Event} :
    (record event : Step σ Unit).runFrom start ≠ (.error error, final) := by
  intro ran
  cases ran

theorem runFrom_recordAll_ne_error {events : List Event} :
    (recordAll events : Step σ Unit).runFrom start ≠ (.error error, final) := by
  intro ran
  cases ran

theorem runFrom_timed_eq_error_iff {operation : String} :
    (timed operation step).runFrom start = (.error error, final) ↔
      ∃ middle, step.runFrom start = (.error error, middle) ∧
        { middle with events := middle.events ++ [.timed operation] } = final := by
  change ((step.runFrom start).1, { (step.runFrom start).2 with
    events := (step.runFrom start).2.events ++ [.timed operation] }) = (.error error, final) ↔ _
  simp [Prod.ext_iff]

/-- A part of a registration all of whose errors are of some sort. -/
def FailsWith (step : Step σ α) (sort : RegistrationError → Prop) : Prop :=
  ∀ start error final, step.runFrom start = (.error error, final) → sort error

variable {sort : RegistrationError → Prop}

theorem failsWith_ofExcept {ε : Type} {outcome : Except ε α} {wrap : ε → RegistrationError}
    (wrapped : ∀ fault, sort (wrap fault)) :
    (ofExcept (outcome.mapError wrap) : Step σ α).FailsWith sort := by
  intro start error final ran
  rcases mapError_eq_error_iff.mp (runFrom_ofExcept_eq_error_iff.mp ran).1 with ⟨fault, _, rfl⟩
  exact wrapped fault

theorem isCompositional_failsWith (sort : RegistrationError → Prop) :
    IsCompositional fun {_} (step : Step σ _) => step.FailsWith sort where
  pure value := by
    intro start error final ran
    exact absurd ran runFrom_pure_ne_error
  bind first second := by
    intro start error final ran
    rcases runFrom_bind_eq_error_iff.mp ran with failed | ⟨value, middle, _, failed⟩
    · exact first start error final failed
    · exact second value middle error final failed
  record event := by
    intro start error final ran
    exact absurd ran runFrom_record_ne_error

end Step

/-- The batch that is made of reported entities. -/
def completeBatch (prior reported : Entities τ) : Entities τ :=
  inheritTransforms (prior.overlay (resolveElementTypes reported prior))
    (resolveElementTypes reported prior)

/-- Whether an error is one that the declaration of validators can end with. -/
inductive RegistrationError.IsOfDeclaration : RegistrationError → Prop
  | introspection (error : IntrospectionError) : IsOfDeclaration (.introspection error)
  | unbounded (fault : BoundFault) : IsOfDeclaration (.unbounded fault)

namespace Registration

theorem check_eq_error_iff {batch : Entities τ} {error : RegistrationError} :
    check batch = .error error ↔
      ∃ inconsistency, inconsistency? batch = some inconsistency ∧
        .inconsistent inconsistency = error := by
  unfold check
  split <;> simp_all

theorem order_eq_error_iff {graph : ReferenceGraph} {error : RegistrationError} :
    order graph = .error error ↔
      graph.dependencyOrder? = none ∧ .cyclicReferences graph.cycles = error := by
  unfold order
  split <;> simp_all

theorem labels_failsWith (introspector : Introspector τ σ) (typeName : String) :
    (labels introspector typeName).FailsWith RegistrationError.IsOfDeclaration := by
  intro start error final ran
  rcases exists_runFrom_labels introspector typeName start with ⟨middle, _, asked⟩
  rw [asked] at ran
  have answered : ((introspector.memoized.labels typeName middle.memo).1).mapError
      RegistrationError.introspection = .error error := congrArg Prod.fst ran
  rcases mapError_eq_error_iff.mp answered with ⟨fault, _, rfl⟩
  exact .introspection fault

variable [DecidableEq τ]

/-- The declaration of validators never refuses a batch as such. -/
theorem emit_failsWith (introspector : Introspector τ σ) (policy : TextPolicy)
    (registered batch : Entities τ) (order : List Identifier) :
    (emit introspector policy registered batch order).FailsWith
      RegistrationError.IsOfDeclaration := by
  apply holds_emit (Step.isCompositional_failsWith RegistrationError.IsOfDeclaration)
  · exact labels_failsWith introspector
  · intro outcome
    exact Step.failsWith_ofExcept .unbounded

variable [Transform τ]

/-- How a registration can end without success. -/
inductive Stops (prior : Entities τ) (introspector : Introspector τ σ)
    (declarations : List (Declaration τ)) (policy : RegistrationPolicy) (start : Journal σ) :
    RegistrationError → Prop
  | undescribed {error : RegistrationError} {final : Journal σ}
      (failed : (normalize introspector declarations .empty).runFrom start = (.error error, final)) :
      Stops prior introspector declarations policy start error
  | inconsistent {reported : Entities τ} {described : Journal σ} {error : Inconsistency}
      (normalized : (normalize introspector declarations .empty).runFrom start =
        (.ok reported, described))
      (failed : inconsistency? (completeBatch prior reported) = some error) :
      Stops prior introspector declarations policy start (.inconsistent error)
  | cyclic {reported : Entities τ} {described : Journal σ}
      (normalized : (normalize introspector declarations .empty).runFrom start =
        (.ok reported, described))
      (consistent : inconsistency? (completeBatch prior reported) = none)
      (failed : (referenceGraph (completeBatch prior reported)
        (prior.overlay (completeBatch prior reported))).dependencyOrder? = none) :
      Stops prior introspector declarations policy start
        (.cyclicReferences (referenceGraph (completeBatch prior reported)
          (prior.overlay (completeBatch prior reported))).cycles)
  | undeclared {reported : Entities τ} {described checked final : Journal σ}
      {order : List Identifier} {error : RegistrationError}
      (normalized : (normalize introspector declarations .empty).runFrom start =
        (.ok reported, described))
      (consistent : inconsistency? (completeBatch prior reported) = none)
      (ordered : (referenceGraph (completeBatch prior reported)
        (prior.overlay (completeBatch prior reported))).dependencyOrder? = some order)
      (failed : (emit introspector policy.text (prior.overlay (completeBatch prior reported))
        (completeBatch prior reported) order).runFrom checked = (.error error, final)) :
      Stops prior introspector declarations policy start error

/-- A preparation that fails has stopped at one of its stages. -/
theorem stops_of_prepare {prior : Entities τ} {introspector : Introspector τ σ}
    {declarations : List (Declaration τ)} {policy : RegistrationPolicy}
    {start final : Journal σ} {error : RegistrationError}
    (prepared : (prepare prior introspector declarations policy).runFrom start =
      (.error error, final)) :
    Stops prior introspector declarations policy start error := by
  unfold prepare at prepared
  simp only [Step.runFrom_bind_eq_error_iff, Step.runFrom_timed_eq_error_iff,
    Step.runFrom_timed_eq_ok_iff, Step.runFrom_recordAll_ne_error, Step.runFrom_recordAll_eq_ok_iff,
    Step.runFrom_record_ne_error, Step.runFrom_record_eq_ok_iff,
    Step.runFrom_ofExcept_eq_error_iff, Step.runFrom_ofExcept_eq_ok_iff,
    Step.runFrom_pure_ne_error, check_eq_error_iff, check_eq_ok_iff, order_eq_error_iff,
    order_eq_ok_iff, overlay_inheritTransforms, false_or, and_false, exists_false,
    or_false] at prepared
  rcases prepared with ⟨_, failed, _⟩ | ⟨reported, _, ⟨described, normalized, _⟩, _, _, _, checked⟩
  · exact .undescribed failed
  · rcases checked with ⟨⟨_, failed, rfl⟩, _⟩ | ⟨_, _, ⟨consistent, _⟩, _, _, _, ordered⟩
    · exact .inconsistent normalized failed
    · rcases ordered with ⟨⟨failed, rfl⟩, _⟩ | ⟨order, _, ⟨ordered, _⟩, _, failed, _⟩
      · exact .cyclic normalized consistent failed
      · exact .undeclared normalized consistent ordered failed

end Registration

end EntityCatalog
