import EntityCatalog.Proofs.Registration.Answers

/-!
# Pure introspectors

An introspector is pure if its state makes no difference to its answers. They may still depend on
everything that is asked, the options of a declaration included. Two registrations with a pure
introspector that remember the same answers at first cannot be told apart by their outcomes, and
they remember the same answers at the end.
-/

namespace EntityCatalog

variable {τ σ α β : Type}

/-- Whether an introspector answers alike in all states. -/
structure Introspector.IsPure (introspector : Introspector τ σ) : Prop where
  describe : ∀ table scope options state other,
    (introspector.describe table scope options state).1 =
      (introspector.describe table scope options other).1
  labels : ∀ typeName state other,
    (introspector.labels typeName state).1 = (introspector.labels typeName other).1

theorem Introspector.Gives.isPure {introspector : Introspector τ σ} {answers : Answers}
    (gives : introspector.Gives answers) : introspector.IsPure where
  describe table scope options state other := by
    rw [gives.describe table scope options state, gives.describe table scope options other]
  labels typeName state other := by
    rw [gives.labels typeName state, gives.labels typeName other]

namespace Introspector

/-- Whether the same answers are remembered, whatever state they come from. -/
structure Memo.RemembersLike (memo other : Memo σ) : Prop where
  reports : memo.reports = other.reports
  labels : memo.labels = other.labels

namespace Memo.RemembersLike

variable {memo other : Memo σ}

theorem fresh (source otherSource : σ) : (Memo.fresh source).RemembersLike (.fresh otherSource) :=
  ⟨rfl, rfl⟩

theorem keepReport (alike : memo.RemembersLike other) (key : String × String)
    (source otherSource : σ) (answer : Except IntrospectionError ReportedEntity) :
    (memo.keepReport key source answer).RemembersLike (other.keepReport key otherSource answer) := by
  rcases answer with error | report
  · exact ⟨alike.reports, alike.labels⟩
  · refine ⟨?_, alike.labels⟩
    simp [Memo.keepReport, alike.reports]

theorem keepLabels (alike : memo.RemembersLike other) (typeName : String)
    (source otherSource : σ) (answer : Except IntrospectionError (List String)) :
    (memo.keepLabels typeName source answer).RemembersLike
      (other.keepLabels typeName otherSource answer) := by
  rcases answer with error | labels
  · exact ⟨alike.reports, alike.labels⟩
  · refine ⟨alike.reports, ?_⟩
    simp [Memo.keepLabels, alike.labels]

end Memo.RemembersLike

namespace IsPure

variable {introspector : Introspector τ σ} (isPure : introspector.IsPure) {memo other : Memo σ}
  (alike : memo.RemembersLike other)

include isPure alike

theorem memoized_describe (table scope : String) (options : EntityOptions τ) :
    (introspector.memoized.describe table scope options memo).1 =
        (introspector.memoized.describe table scope options other).1 ∧
      (introspector.memoized.describe table scope options memo).2.RemembersLike
        (introspector.memoized.describe table scope options other).2 := by
  have answered := isPure.describe table scope options memo.source other.source
  simp only [memoized, alike.reports]
  rcases other.reports.get? (scope, table) with _ | report
  · simp only [answered]
    exact ⟨trivial, alike.keepReport _ _ _ _⟩
  · exact ⟨rfl, alike⟩

theorem memoized_labels (typeName : String) :
    (introspector.memoized.labels typeName memo).1 =
        (introspector.memoized.labels typeName other).1 ∧
      (introspector.memoized.labels typeName memo).2.RemembersLike
        (introspector.memoized.labels typeName other).2 := by
  have answered := isPure.labels typeName memo.source other.source
  simp only [memoized, alike.labels]
  rcases other.labels.get? typeName with _ | labels
  · simp only [answered]
    exact ⟨trivial, alike.keepLabels _ _ _ _⟩
  · exact ⟨rfl, alike⟩

end IsPure

end Introspector

namespace Step

/-- Whether nothing but the remembered answers makes a difference to a part of a registration. -/
def IgnoresSource (step : Step σ α) : Prop :=
  ∀ start other : Journal σ, start.memo.RemembersLike other.memo →
    (step.runFrom start).1 = (step.runFrom other).1 ∧
      (step.runFrom start).2.memo.RemembersLike (step.runFrom other).2.memo

variable {step : Step σ α}

/-- A run has a counterpart from wherever the same answers are remembered. -/
theorem IgnoresSource.exists_runFrom (ignores : step.IgnoresSource)
    {start final : Journal σ} {outcome : Except RegistrationError α}
    (ran : step.runFrom start = (outcome, final)) {other : Journal σ}
    (alike : start.memo.RemembersLike other.memo) :
    ∃ otherFinal, step.runFrom other = (outcome, otherFinal) ∧
      final.memo.RemembersLike otherFinal.memo := by
  rcases ignores start other alike with ⟨outcomeEq, finalAlike⟩
  rw [ran] at outcomeEq finalAlike
  exact ⟨(step.runFrom other).2, Prod.ext outcomeEq.symm rfl, finalAlike⟩

theorem ignoresSource_ofExcept (outcome : Except RegistrationError α) :
    (ofExcept outcome : Step σ α).IgnoresSource :=
  fun _ _ alike => ⟨rfl, alike⟩

theorem isCompositional_ignoresSource :
    IsCompositional fun {_} (step : Step σ _) => step.IgnoresSource where
  pure value := fun _ _ alike => ⟨rfl, alike⟩
  bind {α β step next} first second := by
    intro start other alike
    rw [runFrom_bind, runFrom_bind]
    rcases ran : step.runFrom start with ⟨outcome, middle⟩
    rcases first.exists_runFrom ran alike with ⟨otherMiddle, otherRan, middleAlike⟩
    rw [otherRan]
    rcases outcome with error | value
    · exact ⟨rfl, middleAlike⟩
    · exact second value middle otherMiddle middleAlike
  record event := fun _ _ alike => ⟨rfl, alike⟩

/-- A question may be announced in one run and not in the other: only its answer counts. -/
theorem ignoresSource_announced (announces : Journal σ → Bool) (event : Event)
    (asked : step.IgnoresSource) :
    IgnoresSource (do
      let journal ← get
      if announces journal then record event
      step) := by
  intro start other alike
  rcases exists_runFrom_announced announces event step start with ⟨middle, memoEq, ran⟩
  rcases exists_runFrom_announced announces event step other with
    ⟨otherMiddle, otherMemoEq, otherRan⟩
  rw [ran, otherRan]
  apply asked
  rw [memoEq, otherMemoEq]
  exact alike

end Step

namespace Registration

variable {introspector : Introspector τ σ} (isPure : introspector.IsPure)

include isPure

theorem report_ignoresSource (declaration : Declaration τ) :
    (report introspector declaration).IgnoresSource := by
  apply Step.ignoresSource_announced
  intro start other alike
  rcases isPure.memoized_describe alike declaration.tableName declaration.scope
    declaration.options with ⟨answered, alike⟩
  exact ⟨congrArg (Except.mapError RegistrationError.introspection) answered, alike⟩

theorem labels_ignoresSource (typeName : String) :
    (labels introspector typeName).IgnoresSource := by
  apply Step.ignoresSource_announced
  intro start other alike
  rcases isPure.memoized_labels alike typeName with ⟨answered, alike⟩
  exact ⟨congrArg (Except.mapError RegistrationError.introspection) answered, alike⟩

/-- The same entities are made of the same declarations. -/
theorem normalize_ignoresSource (declarations : List (Declaration τ)) (initial : Entities τ) :
    (normalize introspector declarations initial).IgnoresSource :=
  holds_normalize Step.isCompositional_ignoresSource (report_ignoresSource isPure)
    Step.ignoresSource_ofExcept declarations initial

/-- The same validators are declared for the same batch. -/
theorem emit_ignoresSource [DecidableEq τ] (policy : TextPolicy) (registered batch : Entities τ)
    (order : List Identifier) :
    (emit introspector policy registered batch order).IgnoresSource := by
  apply holds_emit Step.isCompositional_ignoresSource
  · exact labels_ignoresSource isPure
  · intro outcome
    exact Step.ignoresSource_ofExcept _

end Registration

end EntityCatalog
