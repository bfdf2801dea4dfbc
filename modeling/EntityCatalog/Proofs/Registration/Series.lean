import EntityCatalog.Settings
import EntityCatalog.Proofs.Registration.Stages

/-!
# Series of registrations

Registrations are carried out one after the other on one registry, each with declarations,
settings and an introspector of its own. The introspectors share one state, so that what they
answer, and whether they answer at all, may depend on everything that happened before.

A registration is all or nothing: it merges its whole batch if it succeeds and is to be merged, and
changes nothing otherwise. What a series leaves is therefore the overlay of the merged batches on
what the registry held before, from left to right.
-/

namespace EntityCatalog

variable {τ σ : Type}

/-- A registration that is asked for. -/
structure Request (τ σ : Type) where
  introspector : Introspector τ σ
  declarations : List (Declaration τ)
  settings : Settings
  /-- Whether to merge the batch, if not as the settings say. -/
  commit : Option Bool

/-- What is left of a registration that does not depend on whether it is merged. -/
def Registration.content (registration : Registration τ) :
    Entities τ × Catalog τ × List Identifier :=
  (registration.entities, registration.catalog, registration.excluded)

/-- The batch that a registration merges. -/
def Registration.mergedBatch? : Except RegistrationError (Registration τ) → Option (Entities τ)
  | .ok registration => if registration.committed then some registration.entities else none
  | .error _ => none

/-- The outcomes of a series of registrations, and the state that it leaves. -/
structure Series (τ σ : Type) where
  outcomes : List (Except RegistrationError (Registration τ))
  registry : Registry τ
  source : σ

variable [DecidableEq τ] [Transform τ]

namespace Request

def policy (request : Request τ σ) : RegistrationPolicy :=
  request.settings.registrationPolicy request.commit

def carryOut (request : Request τ σ) (registry : Registry τ) (source : σ) :
    RegistrationReport τ σ :=
  registry.register request.introspector source request.declarations request.policy

end Request

/-- Carries out registrations one after the other. -/
def Registry.registerAll (registry : Registry τ) (source : σ) :
    List (Request τ σ) → Series τ σ
  | [] => ⟨[], registry, source⟩
  | request :: rest =>
      let report := request.carryOut registry source
      let later := report.registry.registerAll report.source rest
      { later with outcomes := report.outcome :: later.outcomes }

namespace Registration

/-- The choice about merging is only noted at the end of a preparation. -/
theorem prepare_eq_map (prior : Entities τ) (introspector : Introspector τ σ)
    (declarations : List (Declaration τ)) (policy : RegistrationPolicy) (commit : Bool) :
    prepare prior introspector declarations policy =
      (fun registration => { registration with committed := policy.commit }) <$>
        prepare prior introspector declarations { policy with commit } := by
  simp only [prepare, map_bind, map_pure]

end Registration

namespace Registry

variable {registry : Registry τ} {introspector : Introspector τ σ} {source : σ}
  {declarations : List (Declaration τ)} {policy : RegistrationPolicy}

theorem register_outcome (registry : Registry τ) (introspector : Introspector τ σ) (source : σ)
    (declarations : List (Declaration τ)) (policy : RegistrationPolicy) :
    (registry.register introspector source declarations policy).outcome =
      ((Registration.prepare registry.entities introspector declarations policy).runFrom
        ⟨.fresh source, []⟩).1 := by
  unfold register Step.runFrom
  simp only
  split <;> simp_all

theorem register_source (registry : Registry τ) (introspector : Introspector τ σ) (source : σ)
    (declarations : List (Declaration τ)) (policy : RegistrationPolicy) :
    (registry.register introspector source declarations policy).source =
      ((Registration.prepare registry.entities introspector declarations policy).runFrom
        ⟨.fresh source, []⟩).2.memo.source := by
  unfold register Step.runFrom
  simp only
  split <;> simp_all

/-- A registration that succeeds has passed every stage. -/
theorem exists_course_of_register {registration : Registration τ}
    (succeeded : (registry.register introspector source declarations policy).outcome =
      .ok registration) :
    ∃ final, Nonempty (Registration.Course registry.entities introspector declarations policy
      ⟨.fresh source, []⟩ registration final) := by
  rw [register_outcome] at succeeded
  exact ⟨_, Registration.nonempty_course_of_prepare (Prod.ext succeeded rfl)⟩

theorem committed_eq_of_register {registration : Registration τ}
    (succeeded : (registry.register introspector source declarations policy).outcome =
      .ok registration) :
    registration.committed = policy.commit := by
  rcases exists_course_of_register succeeded with ⟨final, ⟨course⟩⟩
  exact course.committed_eq

/-- A registration changes the registry by its merged batch and by nothing else. -/
theorem register_registry (registry : Registry τ) (introspector : Introspector τ σ) (source : σ)
    (declarations : List (Declaration τ)) (policy : RegistrationPolicy) :
    (registry.register introspector source declarations policy).registry =
      ((Registration.mergedBatch?
        (registry.register introspector source declarations policy).outcome).map
          registry.merge).getD registry := by
  unfold register
  simp only
  split
  · rfl
  · next registration _ _ =>
    by_cases committed : registration.committed <;>
      simp [Registration.mergedBatch?, committed]

theorem registry_register_of_committed {registration : Registration τ}
    (succeeded : (registry.register introspector source declarations policy).outcome =
      .ok registration) (committed : registration.committed = true) :
    (registry.register introspector source declarations policy).registry =
      registry.merge registration.entities := by
  rw [register_registry, succeeded, Registration.mergedBatch?, if_pos committed]
  rfl

/--
Merging the batch is the only way in which a registration can lose a property of the registry.
-/
theorem register_preserves {motive : Registry τ → Prop} (holds : motive registry)
    (merged : ∀ registration, (registry.register introspector source declarations policy).outcome =
      .ok registration → motive (registry.merge registration.entities)) :
    motive (registry.register introspector source declarations policy).registry := by
  rcases succeeded : (registry.register introspector source declarations policy).outcome with
    error | registration
  · rw [register_registry, succeeded]
    exact holds
  · by_cases committed : registration.committed = true
    · rw [registry_register_of_committed succeeded committed]
      exact merged registration succeeded
    · rw [register_registry, succeeded, Registration.mergedBatch?, if_neg committed]
      exact holds

theorem registry_carryOut (request : Request τ σ) (registry : Registry τ) (source : σ) :
    (request.carryOut registry source).registry =
      ((Registration.mergedBatch? (request.carryOut registry source).outcome).map
        registry.merge).getD registry :=
  register_registry _ _ _ _ _

/-- What every request preserves is preserved by the series of them. -/
theorem registerAll_preserves {motive : Registry τ → Prop} (source : σ)
    {requests : List (Request τ σ)}
    (each : ∀ request ∈ requests, ∀ registry source, motive registry →
      motive (request.carryOut registry source).registry) (holds : motive registry) :
    motive (registry.registerAll source requests).registry := by
  induction requests generalizing registry source with
  | nil => exact holds
  | cons request rest ih =>
      have next := each request List.mem_cons_self registry source holds
      exact ih _ (fun later mem => each later (List.mem_cons_of_mem _ mem)) next

/-- Whether the batch is merged makes no difference to the rest of the outcome. -/
theorem content_register_commit (registry : Registry τ) (introspector : Introspector τ σ)
    (source : σ) (declarations : List (Declaration τ)) (policy : RegistrationPolicy)
    (commit : Bool) :
    (registry.register introspector source declarations policy).outcome.map
        Registration.content =
      (registry.register introspector source declarations { policy with commit }).outcome.map
        Registration.content := by
  rw [register_outcome, register_outcome, Registration.prepare_eq_map _ _ _ policy commit,
    Step.runFrom_map]
  rcases ((Registration.prepare registry.entities introspector declarations
    { policy with commit }).runFrom ⟨.fresh source, []⟩).1 with error | registration <;> rfl

theorem keys_subset_register (registry : Registry τ) (introspector : Introspector τ σ)
    (source : σ) (declarations : List (Declaration τ)) (policy : RegistrationPolicy) :
    registry.entities.keys ⊆
      (registry.register introspector source declarations policy).registry.entities.keys := by
  intro identifier mem
  rw [register_registry]
  rcases Registration.mergedBatch?
    (registry.register introspector source declarations policy).outcome with _ | batch
  · exact mem
  · exact OrderedMap.mem_keys_overlay.mpr (Or.inr mem)

/-- The merged batches are all that a series adds to the registry. -/
theorem entities_registerAll (registry : Registry τ) (source : σ)
    (requests : List (Request τ σ)) :
    (registry.registerAll source requests).registry.entities =
      ((registry.registerAll source requests).outcomes.filterMap
        Registration.mergedBatch?).foldl OrderedMap.overlay registry.entities := by
  induction requests generalizing registry source with
  | nil => rfl
  | cons request rest ih =>
      have registryEq := register_registry registry request.introspector source
        request.declarations request.policy
      simp only [registerAll, ih, List.filterMap_cons, Request.carryOut]
      rw [registryEq]
      rcases Registration.mergedBatch? (registry.register request.introspector source
        request.declarations request.policy).outcome with _ | batch <;> rfl

theorem keys_subset_registerAll (registry : Registry τ) (source : σ)
    (requests : List (Request τ σ)) :
    registry.entities.keys ⊆ (registry.registerAll source requests).registry.entities.keys := by
  induction requests generalizing registry source with
  | nil => exact List.Subset.refl _
  | cons request rest ih =>
      exact List.Subset.trans (keys_subset_register registry _ _ _ _) (ih _ _)

/--
After every series of registrations the registry holds the merged batches, overlaid from left to
right on what it held before, and no identifier is lost. A further registration that fails leaves
this state, and so does one that is not to be merged; choosing otherwise about merging gives the
same error, or the same batch, catalog and excluded columns.
-/
theorem registerAll_allOrNothing (registry : Registry τ) (source : σ)
    (requests : List (Request τ σ)) (request : Request τ σ) :
    let series := registry.registerAll source requests
    let report := request.carryOut series.registry series.source
    let choose (commit : Bool) : RegistrationReport τ σ :=
      { request with commit := some commit }.carryOut series.registry series.source
    series.registry.entities =
        (series.outcomes.filterMap Registration.mergedBatch?).foldl OrderedMap.overlay
          registry.entities ∧
      registry.entities.keys ⊆ series.registry.entities.keys ∧
      (match report.outcome with
        | .error _ => report.registry = series.registry
        | .ok registration =>
            registration.committed =
                request.commit.getD request.settings.commitRegistry ∧
              report.registry =
                if registration.committed then series.registry.merge registration.entities
                else series.registry) ∧
      (choose true).outcome.map Registration.content =
        (choose false).outcome.map Registration.content := by
  intro series report choose
  refine ⟨entities_registerAll registry source requests,
    keys_subset_registerAll registry source requests, ?_, ?_⟩
  · have registryEq : report.registry =
        ((Registration.mergedBatch? report.outcome).map series.registry.merge).getD
          series.registry := register_registry _ _ _ _ _
    rw [registryEq]
    split
    · next error failed => rw [failed]; rfl
    · next registration succeeded =>
      refine ⟨committed_eq_of_register succeeded, ?_⟩
      rw [succeeded]
      by_cases committed : registration.committed <;>
        simp [Registration.mergedBatch?, committed]
  · exact content_register_commit _ _ _ _ _ false

end Registry

end EntityCatalog
