import Mathlib.Data.List.Flatten
import EntityCatalog.Proofs.Registration.Part

/-!
# Registering in steps

Declarations may be registered at once or in two steps. With an introspector that always answers
alike, the two steps succeed if everything at once does, and they give the same registry and the
same catalog, provided that no identifier is declared twice, that no two types share a name, and
that the first step does not need the types of the second. The second step finds the types of the
first one in the registry where the registration at once finds them in its batch.
-/

namespace EntityCatalog

open Introspector (Answers)

variable {τ σ : Type}

section Declared

/-- The identifiers of an entity, of its complete rows unless it has none, and of its columns. -/
def Entity.identifiers (owner : Identifier) (entity : Entity τ) : List Identifier :=
  owner :: ((if entity.isEnumeration then [] else [entity.insertIdentifier]) ++ entity.columns.keys)

/-- The identifiers of all entities, complete rows and columns. -/
def Entities.identifiers (entities : Entities τ) : List Identifier :=
  entities.entries.flatMap fun entry => entry.2.identifiers entry.1

variable {batch : Entities τ} {derive : Column τ → Option (Validator τ)}
  {identifier : Identifier} {validator other : Validator τ}

/-- Whether an entity of a batch declares a validator for an identifier. -/
def Entities.Declares (batch : Entities τ) (derive : Column τ → Option (Validator τ))
    (identifier : Identifier) (validator : Validator τ) : Prop :=
  ∃ owner entity, batch.get? owner = some entity ∧
    (identifier, validator) ∈ entity.declarations derive owner

theorem Entities.mem_declarations_iff {order : List Identifier}
    (listed : ∀ identifier ∈ batch.keys, identifier ∈ order) :
    (identifier, validator) ∈ batch.declarations derive order ↔
      batch.Declares derive identifier validator := by
  simp only [declarations, List.mem_flatMap, Declares]
  constructor
  · rintro ⟨owner, _, mem⟩
    rcases member : batch.get? owner with _ | entity
    · rw [member] at mem
      cases mem
    · rw [member] at mem
      exact ⟨owner, entity, member, mem⟩
  · rintro ⟨owner, entity, member, mem⟩
    refine ⟨owner, listed owner (OrderedMap.mem_keys_of_get? member), ?_⟩
    rw [member]
    exact mem

theorem Entity.columnDeclarations_sublist (entity : Entity τ) :
    ((entity.columnDeclarations derive).map Prod.fst).Sublist entity.columns.keys := by
  unfold columnDeclarations OrderedMap.keys
  induction entity.columns.entries with
  | nil => exact List.Sublist.refl _
  | cons entry rest ih =>
      rw [List.filterMap_cons, List.map_cons]
      rcases derive entry.2 with _ | validator
      · exact ih.cons _
      · exact ih.cons_cons _

theorem Entity.declarations_sublist (owner : Identifier) (entity : Entity τ) :
    ((entity.declarations derive owner).map Prod.fst).Sublist (entity.identifiers owner) := by
  rw [declarations, identifiers, List.map_cons, List.map_append]
  apply List.Sublist.cons_cons
  apply List.Sublist.append _ entity.columnDeclarations_sublist
  unfold insertDeclarations
  split <;> exact List.Sublist.refl _

/-- If no identifier comes twice, at most one validator is declared for each. -/
theorem Entities.Declares.functional (distinct : batch.identifiers.Nodup)
    (declares : batch.Declares derive identifier validator)
    (otherDeclares : batch.Declares derive identifier other) : validator = other := by
  have nodup : ((batch.entries.flatMap fun entry =>
      entry.2.declarations derive entry.1).map Prod.fst).Nodup := by
    rw [List.map_flatMap]
    refine List.Nodup.sublist ?_ distinct
    exact List.Sublist.flatMap_right _ fun entry _ => entry.2.declarations_sublist entry.1
  rcases declares with ⟨owner, entity, member, mem⟩
  rcases otherDeclares with ⟨otherOwner, otherEntity, otherMember, otherMem⟩
  have same := List.inj_on_of_nodup_map nodup
    (List.mem_flatMap.mpr ⟨(owner, entity), OrderedMap.get?_eq_some_iff_mem.mp member, mem⟩)
    (List.mem_flatMap.mpr ⟨(otherOwner, otherEntity),
      OrderedMap.get?_eq_some_iff_mem.mp otherMember, otherMem⟩) rfl
  exact congrArg Prod.snd same

theorem Entities.Declares.mono {larger : Entities τ} (included : batch.IncludedIn larger)
    (declares : batch.Declares derive identifier validator) :
    larger.Declares derive identifier validator := by
  rcases declares with ⟨owner, entity, member, mem⟩
  exact ⟨owner, entity, included owner entity member, mem⟩

/-- What is found in the catalog of a batch is what the batch declares, in whatever order. -/
theorem Entities.get?_ofList_declarations (distinct : batch.identifiers.Nodup)
    {part : Entities τ} (included : part.IncludedIn batch) {order : List Identifier}
    (listed : ∀ identifier ∈ part.keys, identifier ∈ order) :
    (OrderedMap.ofList (part.declarations derive order)).get? identifier = some validator ↔
      part.Declares derive identifier validator := by
  rw [OrderedMap.get?_ofList_eq_some_iff, mem_declarations_iff listed]
  intro key value other mem otherMem
  rw [mem_declarations_iff listed] at mem otherMem
  exact Declares.functional distinct (mem.mono included) (otherMem.mono included)

end Declared

section Meaning

variable {prior reported whole : Entities τ} {name : String}

@[simp]
theorem Entities.outline?_empty (identifier : Identifier) :
    Entities.outline? (.empty : Entities τ) identifier = none := rfl

theorem Entities.HaveSameTypes.hasType_iff {left right : Entities τ}
    (same : left.HaveSameTypes right name) {identifier : Identifier} :
    left.HasType identifier name ↔ right.HasType identifier name := by
  simp only [hasType_iff_outline?]
  apply exists_congr
  intro outline
  apply and_congr_left
  exact same identifier outline

/-- What an array finds has the name of its type, unless the reported entities hide it. -/
theorem hasType_of_elementType? (disjoint : ∀ identifier ∈ reported.keys, identifier ∉ prior.keys)
    {target : Identifier} (found : elementType? prior reported name = some target) :
    Entities.HasType (prior.overlay reported) target name := by
  rcases Option.or_eq_some_iff.mp found with inBatch | ⟨_, earlier⟩
  · have hasType := Entities.hasType_of_findType? inBatch
    exact (Entities.hasType_overlay_of_mem hasType.mem_keys).mpr hasType
  · have hasType := Entities.hasType_of_findType? earlier
    have free : target ∉ reported.keys := fun key => disjoint target key hasType.mem_keys
    exact (Entities.hasType_overlay_of_notMem free).mpr hasType

theorem elementType?_ne_none {identifier : Identifier}
    (hasType : Entities.HasType (prior.overlay reported) identifier name) :
    elementType? prior reported name ≠ none := by
  rw [elementType?, ne_eq, Option.or_eq_none_iff]
  rintro ⟨notInBatch, notEarlier⟩
  by_cases key : identifier ∈ reported.keys
  · exact ((Entities.hasType_overlay_of_mem key).mp hasType).findType?_ne_none notInBatch
  · exact ((Entities.hasType_overlay_of_notMem key).mp hasType).findType?_ne_none notEarlier

/-- A name of at most one type means the same whether that type comes earlier or in the batch. -/
theorem MeansAlike.of_unique (disjoint : ∀ identifier ∈ reported.keys, identifier ∉ prior.keys)
    (same : Entities.HaveSameTypes (prior.overlay reported) whole name)
    (unique : ∀ left right, whole.HasType left name → whole.HasType right name → left = right) :
    MeansAlike prior reported .empty whole name where
  elementType := by
    have wholeEq : elementType? .empty whole name = whole.findType? name := by
      rw [elementType?]
      exact Option.or_none
    rw [wholeEq]
    rcases found : elementType? prior reported name with _ | target
    · symm
      rw [Entities.findType?_eq_none_iff]
      intro identifier hasType
      exact elementType?_ne_none (same.hasType_iff.mpr hasType) found
    · have hasType := same.hasType_iff.mp (hasType_of_elementType? disjoint found)
      rcases Option.ne_none_iff_exists'.mp hasType.findType?_ne_none with ⟨other, otherFound⟩
      rw [otherFound, unique target other hasType (Entities.hasType_of_findType? otherFound)]
  types := by
    intro identifier outline isType
    simpa using same identifier outline isType
  outline target found := by
    have outlines := same.outline?_eq (hasType_of_elementType? disjoint found)
    simpa using outlines

end Meaning

section Split

variable {answers : Answers} {first second : List (Declaration τ)} {whole front back : Entities τ}

theorem Introspector.Answers.mem_identifiers_of_mem_keys {declarations : List (Declaration τ)}
    (made : answers.batch declarations .empty = .ok whole) {identifier : Identifier}
    (key : identifier ∈ whole.keys) :
    identifier ∈ declarations.map Declaration.identifier := by
  rcases OrderedMap.exists_get?_of_mem_keys key with ⟨entity, member⟩
  rcases (get?_batch made).mp member with absent | ⟨declaration, mem, rfl, _⟩
  · cases absent
  · exact List.mem_map_of_mem mem

/-- The batch of two lists of declarations has the entities of both, which are different ones. -/
structure Entities.SplitsInto (whole front back : Entities τ) : Prop where
  get?_iff : ∀ identifier entity, whole.get? identifier = some entity ↔
    front.get? identifier = some entity ∨ back.get? identifier = some entity
  disjoint : ∀ identifier ∈ back.keys, identifier ∉ front.keys

theorem Introspector.Answers.exists_batch_append
    (made : answers.batch (first ++ second) .empty = .ok whole) :
    ∃ front back, answers.batch first .empty = .ok front ∧
      answers.batch second .empty = .ok back ∧ whole.SplitsInto front back := by
  rcases exists_batch_iff.mp ⟨whole, made⟩ with ⟨nodup, described⟩
  rw [List.map_append, List.nodup_append] at nodup
  rcases nodup with ⟨firstNodup, secondNodup, apart⟩
  rcases exists_batch_iff.mpr ⟨firstNodup, fun declaration mem =>
    described declaration (List.mem_append_left _ mem)⟩ with ⟨front, frontMade⟩
  rcases exists_batch_iff.mpr ⟨secondNodup, fun declaration mem =>
    described declaration (List.mem_append_right _ mem)⟩ with ⟨back, backMade⟩
  refine ⟨front, back, frontMade, backMade, ?_, ?_⟩
  · intro identifier entity
    rw [get?_batch made, get?_batch frontMade, get?_batch backMade]
    simp [or_and_right, exists_or]
  · intro identifier backKey frontKey
    exact apart identifier (mem_identifiers_of_mem_keys frontMade frontKey) identifier
      (mem_identifiers_of_mem_keys backMade backKey) rfl

end Split

namespace Entities.SplitsInto

variable {whole front back : Entities τ} (split : whole.SplitsInto front back)

include split

theorem front_includedIn : front.IncludedIn whole :=
  fun identifier entity member => (split.get?_iff identifier entity).mpr (Or.inl member)

theorem back_includedIn : back.IncludedIn whole :=
  fun identifier entity member => (split.get?_iff identifier entity).mpr (Or.inr member)

theorem overlay_sameAs : (front.overlay back).SameAs whole :=
  OrderedMap.overlay_sameAs_of_includedIn split.front_includedIn split.back_includedIn
    fun identifier entity => (split.get?_iff identifier entity).mp

theorem mem_keys {identifier : Identifier} (key : identifier ∈ whole.keys) :
    identifier ∈ front.keys ∨ identifier ∈ back.keys := by
  rcases OrderedMap.exists_get?_of_mem_keys key with ⟨entity, member⟩
  rcases (split.get?_iff identifier entity).mp member with inFront | inBack
  · exact Or.inl (OrderedMap.mem_keys_of_get? inFront)
  · exact Or.inr (OrderedMap.mem_keys_of_get? inBack)

end Entities.SplitsInto

section Steps

variable [DecidableEq τ] [Transform τ] {success : SuccessfulRegistration τ σ} {answers : Answers}
  {first second : List (Declaration τ)} {whole front back : Entities τ}
  (batchEq : success.batch = completeBatch success.prior.entities whole)
  (fromEmpty : success.prior = .empty) (split : whole.SplitsInto front back)
  (unique : ∀ name left right, whole.HasType left name → whole.HasType right name → left = right)

include batchEq fromEmpty split unique

theorem SuccessfulRegistration.hasPart_front (made : answers.batch first .empty = .ok front)
    (independent : ∀ name ∈ front.typeNames, ∀ identifier ∈ back.keys,
      ¬whole.HasType identifier name) :
    success.HasPart answers .empty first whole front where
  made := made
  batch_eq := batchEq
  included := split.front_includedIn
  alike name mem := by
    rw [fromEmpty]
    apply MeansAlike.of_unique (fun _ _ => List.not_mem_nil) _ (unique name)
    intro identifier outline isType
    have frontOutline : front.outline? identifier = some outline →
        whole.outline? identifier = some outline := by
      intro found
      rcases Option.map_eq_some_iff.mp found with ⟨entity, member, outlineEq⟩
      rw [Entities.outline?, split.front_includedIn identifier entity member, Option.map_some,
        outlineEq]
    -- A type of this name is none of the second step, so it is one of the first.
    have wholeOutline : whole.outline? identifier = some outline →
        front.outline? identifier = some outline := by
      intro found
      have hasType := Entities.hasType_iff_outline?.mpr ⟨outline, found, isType⟩
      rcases Option.map_eq_some_iff.mp found with ⟨entity, member, outlineEq⟩
      rcases (split.get?_iff identifier entity).mp member with inFront | inBack
      · rw [Entities.outline?, inFront, Option.map_some, outlineEq]
      · exact absurd hasType
          (independent name mem identifier (OrderedMap.mem_keys_of_get? inBack))
    simpa using ⟨frontOutline, wholeOutline⟩

theorem SuccessfulRegistration.hasPart_back (made : answers.batch second .empty = .ok back) :
    success.HasPart answers (Registry.empty.merge (completeBatch .empty front)).entities second
      whole back where
  made := made
  batch_eq := batchEq
  included := split.back_includedIn
  alike name _ := by
    rw [fromEmpty]
    refine MeansAlike.of_unique ?_ ?_ (unique name)
    · intro identifier key earlier
      rcases OrderedMap.mem_keys_overlay.mp earlier with frontKey | absent
      · rw [keys_completeBatch] at frontKey
        exact split.disjoint identifier key frontKey
      · cases absent
    · apply Entities.haveSameTypes_of_outline?_eq
      intro identifier
      have overlaid := congrArg (Option.map Entity.outline) (split.overlay_sameAs identifier)
      change Entities.outline? (front.overlay back) identifier = whole.outline? identifier
        at overlaid
      simpa [Registry.merge, Registry.empty] using overlaid

end Steps

section Union

variable [DecidableEq τ] [Transform τ] {success : SuccessfulRegistration τ σ} {answers : Answers}
  {first second : List (Declaration τ)} {earlier later whole front back : Entities τ}
  (frontPart : success.HasPart answers earlier first whole front)
  (backPart : success.HasPart answers later second whole back) (split : whole.SplitsInto front back)

include frontPart backPart split

/-- Every entity of the whole is registered in one of the steps. -/
theorem SuccessfulRegistration.get?_of_hasPart {owner : Identifier} {entity : Entity τ}
    (member : success.batch.get? owner = some entity) :
    (completeBatch earlier front).get? owner = some entity ∨
      (completeBatch later back).get? owner = some entity := by
  have key : owner ∈ whole.keys := by
    have batchKey := OrderedMap.mem_keys_of_get? member
    rwa [frontPart.batch_eq, keys_completeBatch] at batchKey
  rcases split.mem_keys key with frontKey | backKey
  · left
    rw [← member]
    exact frontPart.includedIn_batch.get?_eq (by rwa [keys_completeBatch])
  · right
    rw [← member]
    exact backPart.includedIn_batch.get?_eq (by rwa [keys_completeBatch])

theorem SuccessfulRegistration.overlay_sameAs_batch :
    ((completeBatch earlier front).overlay (completeBatch later back)).SameAs success.batch :=
  OrderedMap.overlay_sameAs_of_includedIn frontPart.includedIn_batch backPart.includedIn_batch
    fun _ _ => get?_of_hasPart frontPart backPart split

omit frontPart split in
theorem SuccessfulRegistration.HasPart.get?_declarations_iff
    (distinct : success.batch.identifiers.Nodup) {order : List Identifier}
    (listed : ∀ identifier ∈ (completeBatch later back).keys, identifier ∈ order)
    {identifier : Identifier} {validator : Validator τ} :
    (OrderedMap.ofList ((completeBatch later back).declarations success.derived? order)).get?
        identifier = some validator ↔
      (completeBatch later back).Declares success.derived? identifier validator :=
  Entities.get?_ofList_declarations distinct backPart.includedIn_batch listed

/-- Without repeated identifiers, the catalogs of both steps make the catalog of the whole. -/
theorem SuccessfulRegistration.overlay_sameAs_catalog (distinct : success.batch.identifiers.Nodup)
    {leftOrder rightOrder : List Identifier}
    (leftListed : ∀ identifier ∈ (completeBatch earlier front).keys, identifier ∈ leftOrder)
    (rightListed : ∀ identifier ∈ (completeBatch later back).keys, identifier ∈ rightOrder) :
    (OrderedMap.overlay
      (.ofList ((completeBatch earlier front).declarations success.derived? leftOrder))
      (.ofList ((completeBatch later back).declarations success.derived? rightOrder))).SameAs
        success.catalog.declarations := by
  have wholeFound (identifier : Identifier) (validator : Validator τ) :
      success.catalog.declarations.get? identifier = some validator ↔
        success.batch.Declares success.derived? identifier validator := by
    rw [success.catalog_declarations]
    exact Entities.get?_ofList_declarations distinct (.refl _) fun _ =>
      success.mem_order_of_mem_batch
  apply OrderedMap.overlay_sameAs_of_includedIn
  · intro identifier validator found
    rw [frontPart.get?_declarations_iff distinct leftListed] at found
    exact (wholeFound _ _).mpr (found.mono frontPart.includedIn_batch)
  · intro identifier validator found
    rw [backPart.get?_declarations_iff distinct rightListed] at found
    exact (wholeFound _ _).mpr (found.mono backPart.includedIn_batch)
  · intro identifier validator found
    rw [frontPart.get?_declarations_iff distinct leftListed,
      backPart.get?_declarations_iff distinct rightListed]
    rcases (wholeFound _ _).mp found with ⟨owner, entity, member, mem⟩
    rcases get?_of_hasPart frontPart backPart split member with inFront | inBack
    · exact Or.inl ⟨owner, entity, inFront, mem⟩
    · exact Or.inr ⟨owner, entity, inBack, mem⟩

end Union

section Registration

variable [DecidableEq τ] [Transform τ]

/-- Both steps are parts of the whole if types have names of their own and come in time. -/
theorem SuccessfulRegistration.exists_parts {success : SuccessfulRegistration τ σ}
    {answers : Answers} (gives : success.introspector.Gives answers)
    (fromEmpty : success.prior = .empty) {first second : List (Declaration τ)}
    (inSteps : success.declarations = first ++ second)
    (unique : ∀ name left right, success.batch.HasType left name →
      success.batch.HasType right name → left = right)
    (independent : ∀ declaration ∈ first, ∀ listed column,
      success.Occurs listed declaration.identifier column → ∀ later ∈ second,
        ¬success.batch.HasType later.identifier column.typeName) :
    ∃ whole front back, whole.SplitsInto front back ∧
      success.HasPart answers .empty first whole front ∧
      success.HasPart answers (Registry.empty.merge (completeBatch .empty front)).entities second
        whole back := by
  rcases exists_reported gives with ⟨whole, made, batchEq⟩
  rw [inSteps] at made
  rcases Answers.exists_batch_append made with ⟨front, back, frontMade, backMade, split⟩
  have hasTypeEq {identifier : Identifier} {name : String} :
      success.batch.HasType identifier name ↔ whole.HasType identifier name := by
    rw [batchEq, Entities.hasType_iff_outline?, Entities.hasType_iff_outline?]
    simp only [outline?_completeBatch]
  simp only [hasTypeEq] at unique independent
  refine ⟨whole, front, back, split, hasPart_front batchEq fromEmpty split unique frontMade ?_,
    hasPart_back batchEq fromEmpty split unique backMade⟩
  intro name mem identifier backKey
  rcases Entities.mem_typeNames_iff.mp mem with ⟨owner, origin, listed, column, member, found, rfl⟩
  rcases List.mem_map.mp (Answers.mem_identifiers_of_mem_keys frontMade
    (OrderedMap.mem_keys_of_get? member)) with ⟨declaration, declarationMem, rfl⟩
  rcases List.mem_map.mp (Answers.mem_identifiers_of_mem_keys backMade backKey) with
    ⟨later, laterMem, rfl⟩
  have occurs : success.Occurs listed declaration.identifier
      (column.complete success.prior.entities whole) := by
    refine ⟨_, ?_, by
      rw [Entity.columns_mapColumns, OrderedMap.get?_mapValues, found]
      rfl⟩
    rw [batchEq, get?_completeBatch, split.front_includedIn _ _ member]
    rfl
  simpa using independent declaration declarationMem listed _ occurs later laterMem

/--
Registering in steps is registering at once. Let some declarations be registered into the empty
registry, with an introspector that always answers alike, so that no identifier of an entity, of
complete rows or of a column comes twice, every name belongs to one composite type or enumeration at
most, and no column of the first declarations has a type that is named like one of the others. Then
the first declarations and after them the others are registered successfully, the registry is the
same in the end, and so is the first catalog updated by the second one.
-/
theorem Registry.register_append {introspector : Introspector τ σ} {answers : Answers}
    (gives : introspector.Gives answers) {first second : List (Declaration τ)} {text : TextPolicy}
    {source : σ} {whole : Registration τ}
    (succeeded : (Registry.empty.register introspector source (first ++ second)
      ⟨true, text⟩).outcome = .ok whole)
    (distinct : whole.entities.identifiers.Nodup)
    (unique : ∀ name left right, whole.entities.HasType left name →
      whole.entities.HasType right name → left = right)
    (independent : ∀ declaration ∈ first, ∀ entity,
      whole.entities.get? declaration.identifier = some entity →
        ∀ listed column, entity.columns.get? listed = some column → ∀ later ∈ second,
          ¬whole.entities.HasType later.identifier column.typeName)
    (frontSource backSource : σ) :
    let once := Registry.empty.register introspector source (first ++ second) ⟨true, text⟩
    let front := Registry.empty.register introspector frontSource first ⟨true, text⟩
    let back := front.registry.register introspector backSource second ⟨true, text⟩
    ∃ left right, front.outcome = .ok left ∧ back.outcome = .ok right ∧
      back.registry.entities.SameAs once.registry.entities ∧
      (left.catalog.update right.catalog).declarations.SameAs whole.catalog.declarations := by
  intro once front back
  let success : SuccessfulRegistration τ σ :=
    ⟨.empty, introspector, source, first ++ second, ⟨true, text⟩, whole, succeeded⟩
  have gives : success.introspector.Gives answers := gives
  rcases SuccessfulRegistration.exists_parts gives rfl rfl unique
    (fun declaration mem listed column occurs => by
      rcases occurs with ⟨entity, member, found⟩
      exact independent declaration mem entity member listed column found) with
    ⟨_, frontReported, backReported, split, frontPart, backPart⟩
  rcases frontPart.exists_outcome gives frontSource with
    ⟨left, leftOrder, frontEq, leftEntities, leftListed, leftCatalog⟩
  rcases backPart.exists_outcome gives backSource with
    ⟨right, rightOrder, backEq, rightEntities, rightListed, rightCatalog⟩
  have frontEq : front.outcome = .ok left := frontEq
  have frontRegistry : front.registry =
      Registry.empty.merge (completeBatch .empty frontReported) := by
    rw [← leftEntities]
    exact registry_register_of_committed frontEq (committed_eq_of_register frontEq)
  have backEq : back.outcome = .ok right := by
    rw [← backEq, ← frontRegistry]
  refine ⟨left, right, frontEq, backEq, ?_, ?_⟩
  · have backRegistry : back.registry = front.registry.merge right.entities :=
      registry_register_of_committed backEq (committed_eq_of_register backEq)
    have onceRegistry : once.registry = Registry.empty.merge whole.entities :=
      registry_register_of_committed succeeded (committed_eq_of_register succeeded)
    rw [backRegistry, onceRegistry, frontRegistry, rightEntities]
    intro identifier
    have batches := SuccessfulRegistration.overlay_sameAs_batch frontPart backPart split identifier
    change _ = OrderedMap.get? whole.entities identifier at batches
    simpa [merge, empty] using batches
  · rw [leftEntities] at leftListed leftCatalog
    rw [rightEntities] at rightListed rightCatalog
    have catalogs := SuccessfulRegistration.overlay_sameAs_catalog frontPart backPart split distinct
      leftListed rightListed
    rw [← leftCatalog, ← rightCatalog] at catalogs
    exact catalogs

end Registration

namespace Sample

/-- A composite type, and a table with an array and a column of it. -/
def polygons : Introspector Empty Unit :=
  .ofReports
    (.ofList
      [("point", ⟨.composite, columns [("x", "int4", "", true)], []⟩),
        ("polygon", ⟨.table, columns [("corners", "_point", "A", true),
          ("center", "point", "C", false), ("state", "status", "E", true)], []⟩)])
    (.ofList [("status", ["open", "closed"])])

def point : List (Declaration Empty) := declarations ["point"]

def polygon : List (Declaration Empty) := declarations ["polygon"]

def pointAndPolygon : Except RegistrationError (Registration Empty) :=
  (Registry.empty.register polygons () (point ++ polygon) ⟨true, .standard⟩).outcome

/-- Points may be registered before polygons. -/
theorem register_append_of_polygons :
    ∃ whole,
      (Registry.empty.register polygons () (point ++ polygon) ⟨true, .standard⟩).outcome =
          .ok whole ∧
        ∃ left right,
          (Registry.empty.register polygons () point ⟨true, .standard⟩).outcome = .ok left ∧
          ((Registry.empty.register polygons () point ⟨true, .standard⟩).registry.register
            polygons () polygon ⟨true, .standard⟩).outcome = .ok right ∧
          ((Registry.empty.register polygons () point ⟨true, .standard⟩).registry.register
            polygons () polygon ⟨true, .standard⟩).registry.entities.SameAs
              (Registry.empty.register polygons () (point ++ polygon)
                ⟨true, .standard⟩).registry.entities ∧
          (left.catalog.update right.catalog).declarations.SameAs whole.catalog.declarations := by
  have succeeds : pointAndPolygon.toOption.isSome := by decide +kernel
  have distinct : ∀ whole ∈ pointAndPolygon.toOption, whole.entities.identifiers.Nodup := by
    decide +kernel
  have oneType : ∀ whole ∈ pointAndPolygon.toOption, ∀ left ∈ whole.entities.entries,
      ∀ right ∈ whole.entities.entries,
        (left.2.kind = .composite ∨ left.2.kind = .enumeration) →
          (right.2.kind = .composite ∨ right.2.kind = .enumeration) → left.1 = right.1 := by
    decide +kernel
  have inTime : ∀ whole ∈ pointAndPolygon.toOption, ∀ declaration ∈ point,
      ∀ entity ∈ whole.entities.get? declaration.identifier, ∀ entry ∈ entity.columns.entries,
        ∀ later ∈ polygon,
          ∀ other ∈ whole.entities.get? later.identifier, other.name ≠ entry.2.typeName := by
    decide +kernel
  rcases succeeded : pointAndPolygon with error | whole
  · rw [succeeded] at succeeds
    cases succeeds
  rw [succeeded] at distinct oneType inTime
  refine ⟨whole, succeeded, ?_⟩
  have gives : polygons.Gives _ := Introspector.gives_ofReports _ _
  refine Registry.register_append gives succeeded (distinct whole rfl) ?_ ?_ () ()
  · rintro name left right ⟨leftEntity, leftMember, leftKind, _⟩
      ⟨rightEntity, rightMember, rightKind, _⟩
    exact oneType whole rfl (left, leftEntity) (OrderedMap.get?_eq_some_iff_mem.mp leftMember)
      (right, rightEntity) (OrderedMap.get?_eq_some_iff_mem.mp rightMember) leftKind rightKind
  · rintro declaration mem entity member listed column listedIn later laterMem
      ⟨other, otherMember, _, nameEq⟩
    exact inTime whole rfl declaration mem entity member (listed, column)
      (OrderedMap.get?_eq_some_iff_mem.mp listedIn) later laterMem other otherMember nameEq

end Sample

end EntityCatalog
