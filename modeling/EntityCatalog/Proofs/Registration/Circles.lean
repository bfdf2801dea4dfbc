import EntityCatalog.Proofs.Registration.Success

/-!
# Circles of references after a series of registrations

A registration that succeeds has no circle among the references of its batch, but it looks at no
others. A series therefore vouches for a reference only as long as no later registration replaces
one of its ends. Among such references there is never a circle: the entity on it that was registered
last would have been registered together with all others, and then the circle would have been
refused. A later registration can close a circle through earlier entities.
-/

namespace EntityCatalog

variable {τ σ : Type}

/-- The graph of the references that are checked when a batch is registered after others. -/
def checkedGraph (earlier : List (Entities τ)) (batch : Entities τ) : ReferenceGraph :=
  referenceGraph batch ((earlier.foldl OrderedMap.overlay .empty).overlay batch)

/--
Whether some batches vouch for a reference: it was checked with one of them, and none of those that
follow replaces its source or its target.
-/
def VouchFor (batches : List (Entities τ)) (source target : Identifier) : Prop :=
  ∃ front batch back, batches = front ++ batch :: back ∧
    (checkedGraph front batch).RefersTo source target ∧
      ∀ later ∈ back, source ∉ later.keys ∧ target ∉ later.keys

/-- Whether each batch was free of circles when it was registered. -/
def FreeOfCircles (batches : List (Entities τ)) : Prop :=
  ∀ front batch back, batches = front ++ batch :: back → (checkedGraph front batch).IsAcyclic

section Batches

variable {front : List (Entities τ)} {last : Entities τ} {source target : Identifier}

/-- The last batch vouches for what was checked with it, and keeps what does not concern it. -/
theorem vouchFor_append_singleton (vouched : VouchFor (front ++ [last]) source target) :
    (checkedGraph front last).RefersTo source target ∨
      VouchFor front source target ∧ source ∉ last.keys ∧ target ∉ last.keys := by
  rcases vouched with ⟨earlier, batch, back, split, refers, kept⟩
  rcases split_append_singleton split with ⟨rfl, rfl, _⟩ | ⟨middle, frontEq, rfl⟩
  · exact Or.inl refers
  · refine Or.inr ⟨⟨earlier, batch, middle, frontEq, refers, ?_⟩, kept last (by simp)⟩
    intro later mem
    exact kept later (by simp [mem])

/-- What leads into the last batch has been in it all the way. -/
theorem transGen_checked_of_mem
    (walk : Relation.TransGen (VouchFor (front ++ [last])) source target)
    (mem : target ∈ last.keys) :
    Relation.TransGen (checkedGraph front last).RefersTo source target := by
  induction walk with
  | single vouched =>
      rcases vouchFor_append_singleton vouched with refers | ⟨_, _, outside⟩
      · exact .single refers
      · exact absurd mem outside
  | tail _ vouched ih =>
      rcases vouchFor_append_singleton vouched with refers | ⟨_, _, outside⟩
      · exact .tail (ih (mem_keys_of_refersTo refers)) refers
      · exact absurd mem outside

/-- What starts outside of the last batch never gets into it. -/
theorem transGen_front_of_notMem
    (walk : Relation.TransGen (VouchFor (front ++ [last])) source target)
    (notMem : source ∉ last.keys) :
    Relation.TransGen (VouchFor front) source target ∧ target ∉ last.keys := by
  induction walk with
  | single vouched =>
      rcases vouchFor_append_singleton vouched with refers | ⟨earlier, _, outside⟩
      · exact absurd (mem_keys_of_refersTo refers) notMem
      · exact ⟨.single earlier, outside⟩
  | tail _ vouched ih =>
      rcases vouchFor_append_singleton vouched with refers | ⟨earlier, _, outside⟩
      · exact absurd (mem_keys_of_refersTo refers) ih.2
      · exact ⟨.tail ih.1 earlier, outside⟩

end Batches

theorem FreeOfCircles.of_append {front : List (Entities τ)} {last : Entities τ}
    (free : FreeOfCircles (front ++ [last])) : FreeOfCircles front := by
  rintro earlier batch back rfl
  exact free earlier batch (back ++ [last]) (by simp)

theorem FreeOfCircles.append_singleton {front : List (Entities τ)} {last : Entities τ}
    (free : FreeOfCircles front) (acyclic : (checkedGraph front last).IsAcyclic) :
    FreeOfCircles (front ++ [last]) := by
  intro earlier batch back split
  rcases split_append_singleton split with ⟨rfl, rfl, _⟩ | ⟨middle, rfl, _⟩
  · exact acyclic
  · exact free earlier batch middle rfl

/-- No circle consists of references that the batches vouch for. -/
theorem FreeOfCircles.acyclic_vouchFor {batches : List (Entities τ)}
    (free : FreeOfCircles batches) (node : Identifier) :
    ¬Relation.TransGen (VouchFor batches) node node := by
  induction batches using List.reverseRecOn with
  | nil =>
      intro circle
      rcases Relation.TransGen.head'_iff.mp circle with ⟨_, ⟨front, _, _, split, _⟩, _⟩
      simp at split
  | append_singleton front last ih =>
      intro circle
      -- A circle lies in the last batch altogether, or not at all.
      by_cases mem : node ∈ last.keys
      · exact free front last [] rfl node (transGen_checked_of_mem circle mem)
      · exact ih free.of_append (transGen_front_of_notMem circle mem).1

variable [DecidableEq τ] [Transform τ]

namespace Registry

/-- The merged batches of a series, in order. -/
def mergedBatches (registry : Registry τ) (source : σ) (requests : List (Request τ σ)) :
    List (Entities τ) :=
  (registry.registerAll source requests).outcomes.filterMap Registration.mergedBatch?

theorem mergedBatches_cons (registry : Registry τ) (source : σ) (request : Request τ σ)
    (rest : List (Request τ σ)) :
    registry.mergedBatches source (request :: rest) =
      (Registration.mergedBatch? (request.carryOut registry source).outcome).toList ++
        (request.carryOut registry source).registry.mergedBatches
          (request.carryOut registry source).source rest := by
  simp only [mergedBatches, registerAll, List.filterMap_cons]
  rcases Registration.mergedBatch? (request.carryOut registry source).outcome <;> rfl

theorem isAcyclic_of_register {registry : Registry τ} {introspector : Introspector τ σ}
    {source : σ} {declarations : List (Declaration τ)} {policy : RegistrationPolicy}
    {batch : Entities τ}
    (merged : Registration.mergedBatch?
      (registry.register introspector source declarations policy).outcome = some batch) :
    (referenceGraph batch (registry.entities.overlay batch)).IsAcyclic := by
  rcases succeeded : (registry.register introspector source declarations policy).outcome with
    error | registration
  · rw [succeeded] at merged
    cases merged
  · rw [succeeded, Registration.mergedBatch?, Option.ite_none_right_eq_some] at merged
    rcases merged with ⟨_, ⟨⟩⟩
    let success : SuccessfulRegistration τ σ :=
      ⟨registry, introspector, source, declarations, policy, registration, succeeded⟩
    have ordered : ((referenceGraph success.batch success.effective).dependencyOrder?).isSome := by
      simp [success.ordered]
    exact ReferenceGraph.isSome_dependencyOrder?_iff.mp ordered

/-- Each batch that a series merges was free of circles when it was registered. -/
theorem freeOfCircles_registerAll {earlier : List (Entities τ)} {registry : Registry τ}
    (registryEq : registry.entities = earlier.foldl OrderedMap.overlay .empty)
    (free : FreeOfCircles earlier) (source : σ) (requests : List (Request τ σ)) :
    FreeOfCircles (earlier ++ registry.mergedBatches source requests) := by
  induction requests generalizing earlier registry source with
  | nil => simpa [mergedBatches, registerAll] using free
  | cons request rest ih =>
      have nextEq := registry_carryOut request registry source
      rw [mergedBatches_cons]
      rcases merged : Registration.mergedBatch? (request.carryOut registry source).outcome with
        _ | batch
      · rw [merged] at nextEq
        exact ih (nextEq ▸ registryEq) free _
      · rw [merged] at nextEq
        have acyclic : (checkedGraph earlier batch).IsAcyclic := by
          rw [checkedGraph, ← registryEq]
          exact isAcyclic_of_register merged
        have laterEq : (request.carryOut registry source).registry.entities =
            (earlier ++ [batch]).foldl OrderedMap.overlay .empty := by
          rw [nextEq, List.foldl_append, ← registryEq]
          rfl
        have later := ih laterEq (free.append_singleton acyclic)
          (request.carryOut registry source).source
        simpa using later

/--
After every series of registrations that starts from the empty registry, each merged batch had no
circles when it was registered, and a circle among all registered entities contains a reference that
no batch vouches for: after it was checked, one of its ends was registered again, or it came about
without being checked. If there are no such references, there is a dependency order of the whole
registry.
-/
theorem registerAll_circles (source : σ) (requests : List (Request τ σ)) :
    let series := (Registry.empty : Registry τ).registerAll source requests
    let graph := referenceGraph series.registry.entities series.registry.entities
    let batches := Registry.empty.mergedBatches source requests
    FreeOfCircles batches ∧
      (∀ node, ¬Relation.TransGen
        (fun source target => graph.RefersTo source target ∧ VouchFor batches source target)
          node node) ∧
      ((∀ source target, graph.RefersTo source target → VouchFor batches source target) →
        graph.dependencyOrder?.isSome) := by
  intro series graph batches
  have nothing : FreeOfCircles ([] : List (Entities τ)) := by simp [FreeOfCircles]
  have free : FreeOfCircles batches := freeOfCircles_registerAll rfl nothing source requests
  refine ⟨free, ?_, ?_⟩
  · intro node circle
    have vouched := Relation.TransGen.mono (fun _ _ both => both.2) node node circle
    exact free.acyclic_vouchFor node vouched
  · intro vouched
    rw [ReferenceGraph.isSome_dependencyOrder?_iff]
    intro node circle
    exact free.acyclic_vouchFor node (Relation.TransGen.mono vouched node node circle)

/-- Registers a composite type whose only part has another type. -/
def registerPair (name partName partType : String) : Request Empty Unit where
  introspector := Sample.introspector
    [(name, ⟨.composite, Sample.columns [(partName, partType, "C", true)], []⟩)]
  declarations := Sample.declarations [name]
  settings := ⟨.development, false, true, .whole 4, TextPolicy.standardNames, false, .info⟩
  commit := none

/-- Of two composite types, the one registered later gives the part of the other its type. -/
def pairRequests : List (Request Empty Unit) :=
  [registerPair "a" "to_b" "b", registerPair "b" "to_a" "a"]

def pairSeries : Series Empty Unit := Registry.empty.registerAll () pairRequests

/-- Both registrations are merged, and together they make a circle. -/
theorem not_isSome_dependencyOrder?_of_pairSeries :
    ¬∀ requests : List (Request Empty Unit),
      let series := Registry.empty.registerAll () requests
      (∀ outcome ∈ series.outcomes, (Registration.mergedBatch? outcome).isSome) →
        (referenceGraph series.registry.entities
          series.registry.entities).dependencyOrder?.isSome := by
  intro ordered
  have merged : ∀ outcome ∈ pairSeries.outcomes,
      (Registration.mergedBatch? outcome).isSome := by
    decide +kernel
  have circle : ¬(referenceGraph pairSeries.registry.entities
      pairSeries.registry.entities).dependencyOrder?.isSome := by
    decide +kernel
  exact circle (ordered pairRequests merged)

end Registry

end EntityCatalog
