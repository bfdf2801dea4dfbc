import Mathlib.Data.List.Forall2
import Mathlib.Data.List.Nodup
import Mathlib.Data.Set.Function
import EntityCatalog.Catalog
import EntityCatalog.Transform.Standard
import EntityCatalog.Proofs.Identifier
import EntityCatalog.Proofs.Outcome

/-!
# What descriptions tell

A description opens with the kind of its validator and goes on with its parts, of which a transform
is shown by its name and a limit by its document. So as long as different transforms have different
names, and different limits different documents, as integers have, a validator can be told from its
description. The descriptions of a catalog are listed in the order of its declarations under the
written forms of their identifiers, so the catalog can be told from them as well.
-/

namespace EntityCatalog

variable {τ : Type}

namespace Validator

mutual

/--
Whether a validator is an expression with some transforms and limits: all of them are among those,
and no value stands in the place of the validator or of one of its parts.
-/
def IsBuiltFrom (transforms : Set τ) (limits : Set Quantity) : Validator τ → Prop
  | .maxLength limit => limit ∈ limits
  | .allOf parts => PartsBuiltFrom transforms limits parts
  | .transformed inner transform => transform ∈ transforms ∧ inner.IsBuiltFrom transforms limits
  | .nullable inner => inner.IsBuiltFrom transforms limits
  | .collection inner => inner.IsBuiltFrom transforms limits
  | .foreign _ => False
  | _ => True

/-- Whether several validators are expressions with some transforms and limits. -/
def PartsBuiltFrom (transforms : Set τ) (limits : Set Quantity) : List (Validator τ) → Prop
  | [] => True
  | part :: rest =>
      part.IsBuiltFrom transforms limits ∧ PartsBuiltFrom transforms limits rest

end

/-- The word for the form of a validator in its description. -/
def kind : Validator τ → String
  | .base _ => "base"
  | .reference _ => "ref"
  | .oneOf _ => "one_of"
  | .maxLength _ => "max_length"
  | .allOf _ => "all_of"
  | .transformed _ _ => "transformed"
  | .nullable _ => "nullable"
  | .collection _ => "collection"
  | .keys _ _ => "keys"
  | .foreign _ => "foreign"

variable [Transform τ] {transforms : Set τ} {limits : Set Quantity}

/-- A description opens with the kind of the validator. -/
theorem exists_members_of_description {validator : Validator τ} {document : Json}
    (described : validator.description = .ok document) :
    ∃ members, document = documentOf validator.kind members := by
  cases validator with
  | base | reference | oneOf | maxLength | keys =>
      cases described
      exact ⟨_, rfl⟩
  | allOf | transformed | nullable | collection =>
      rcases bind_eq_ok_iff.mp described with ⟨_, _, ⟨⟩⟩
      exact ⟨_, rfl⟩
  | foreign => cases described

theorem documentOf_eq_iff {kind other : String} {members others : List (String × Json)} :
    documentOf kind members = documentOf other others ↔ kind = other ∧ members = others := by
  simp [documentOf]

theorem identifiersDocument_injective : Function.Injective identifiersDocument := by
  intro left right same
  have written : Function.Injective fun identifier : Identifier => Json.text identifier.text :=
    fun _ _ sameText => Identifier.text_injective (Json.text.inj sameText)
  exact List.map_injective_iff.mpr written (Json.array.inj same)

theorem kind_eq_of_description_eq {left right : Validator τ} {document : Json}
    (leftDescribed : left.description = .ok document)
    (rightDescribed : right.description = .ok document) : left.kind = right.kind := by
  rcases exists_members_of_description leftDescribed with ⟨leftMembers, rfl⟩
  rcases exists_members_of_description rightDescribed with ⟨rightMembers, same⟩
  exact (documentOf_eq_iff.mp same).1

/-- The description around an inner validator, after some other members. -/
def descriptionAround (kind : String) (members : List (String × Json)) (inner : Validator τ) :
    Except Value Json := do
  let inner ← inner.description
  .ok (documentOf kind (members ++ [("inner", inner)]))

/-- The other members and the inner description can be told from the whole. -/
theorem eq_of_descriptionAround_eq {kind : String} (members others : List (String × Json))
    {inner other : Validator τ} {document : Json}
    (described : descriptionAround kind members inner = .ok document)
    (otherDescribed : descriptionAround kind others other = .ok document) :
    members = others ∧ ∃ shown, inner.description = .ok shown ∧ other.description = .ok shown := by
  rcases bind_eq_ok_iff.mp described with ⟨shown, innerShown, ⟨⟩⟩
  rcases bind_eq_ok_iff.mp otherDescribed with ⟨otherShown, otherInnerShown, same⟩
  rw [Except.ok.injEq, documentOf_eq_iff] at same
  rcases List.append_inj' same.2 rfl with ⟨sameMembers, ⟨⟩⟩
  exact ⟨sameMembers.symm, shown, innerShown, otherInnerShown⟩

mutual

/-- Every expression has a description. -/
theorem exists_description : ∀ validator : Validator τ, validator.IsBuiltFrom transforms limits →
    ∃ document, validator.description = .ok document
  | .base _, _ | .reference _, _ | .oneOf _, _ | .maxLength _, _ | .keys _ _, _ => ⟨_, rfl⟩
  | .allOf parts, built => by
      rcases exists_partsDescription parts built with ⟨documents, described⟩
      exact ⟨_, bind_eq_ok_iff.mpr ⟨documents, described, rfl⟩⟩
  | .transformed inner _, built => by
      rcases exists_description inner built.2 with ⟨document, described⟩
      exact ⟨_, bind_eq_ok_iff.mpr ⟨document, described, rfl⟩⟩
  | .nullable inner, built => by
      rcases exists_description inner built with ⟨document, described⟩
      exact ⟨_, bind_eq_ok_iff.mpr ⟨document, described, rfl⟩⟩
  | .collection inner, built => by
      rcases exists_description inner built with ⟨document, described⟩
      exact ⟨_, bind_eq_ok_iff.mpr ⟨document, described, rfl⟩⟩

theorem exists_partsDescription : ∀ parts : List (Validator τ),
    PartsBuiltFrom transforms limits parts → ∃ documents, partsDescription parts = .ok documents
  | [], _ => ⟨[], rfl⟩
  | part :: rest, built => by
      rcases exists_description part built.1 with ⟨first, firstDescribed⟩
      rcases exists_partsDescription rest built.2 with ⟨others, othersDescribed⟩
      refine ⟨first :: others, bind_eq_ok_iff.mpr ⟨first, firstDescribed, ?_⟩⟩
      exact bind_eq_ok_iff.mpr ⟨others, othersDescribed, rfl⟩

end

mutual

/-- An expression can be told from its description. -/
theorem eq_of_description_eq (names : transforms.InjOn Transform.name)
    (documents : limits.InjOn Quantity.document) :
    ∀ (left right : Validator τ) (document : Json), left.IsBuiltFrom transforms limits →
      right.IsBuiltFrom transforms limits → left.description = .ok document →
      right.description = .ok document → left = right
  | .base name, right, document, _, _, leftDescribed, rightDescribed => by
      have sameKind := kind_eq_of_description_eq leftDescribed rightDescribed
      cases right with
      | base other =>
          cases leftDescribed
          simpa [description, documentOf_eq_iff, eq_comm] using rightDescribed
      | _ => simp [kind] at sameKind
  | .reference target, right, document, _, _, leftDescribed, rightDescribed => by
      have sameKind := kind_eq_of_description_eq leftDescribed rightDescribed
      cases right with
      | reference other =>
          cases leftDescribed
          have same : other.text = target.text := by
            simpa [description, documentOf_eq_iff] using rightDescribed
          rw [Identifier.text_injective same]
      | _ => simp [kind] at sameKind
  | .oneOf labels, right, document, _, _, leftDescribed, rightDescribed => by
      have sameKind := kind_eq_of_description_eq leftDescribed rightDescribed
      cases right with
      | oneOf others =>
          cases leftDescribed
          have same : others.map Json.text = labels.map Json.text := by
            simpa [description, documentOf_eq_iff] using rightDescribed
          rw [List.map_injective_iff.mpr (fun _ _ => Json.text.inj) same]
      | _ => simp [kind] at sameKind
  | .maxLength limit, right, document, leftBuilt, rightBuilt, leftDescribed, rightDescribed => by
      have sameKind := kind_eq_of_description_eq leftDescribed rightDescribed
      cases right with
      | maxLength other =>
          cases leftDescribed
          have same : other.document = limit.document := by
            simpa [description, documentOf_eq_iff] using rightDescribed
          rw [documents rightBuilt leftBuilt same]
      | _ => simp [kind] at sameKind
  | .allOf parts, right, document, leftBuilt, rightBuilt, leftDescribed, rightDescribed => by
      have sameKind := kind_eq_of_description_eq leftDescribed rightDescribed
      cases right with
      | allOf others =>
          rcases bind_eq_ok_iff.mp leftDescribed with ⟨_, partsDescribed, ⟨⟩⟩
          rcases bind_eq_ok_iff.mp rightDescribed with ⟨_, othersDescribed, same⟩
          simp only [Except.ok.injEq, documentOf_eq_iff, List.cons.injEq, Prod.mk.injEq,
            Json.array.injEq, true_and, and_true] at same
          subst same
          rw [eq_of_partsDescription_eq names documents parts others _ leftBuilt rightBuilt
            partsDescribed othersDescribed]
      | _ => simp [kind] at sameKind
  | .transformed inner transform, right, document, leftBuilt, rightBuilt, leftDescribed,
      rightDescribed => by
      have sameKind := kind_eq_of_description_eq leftDescribed rightDescribed
      cases right with
      | transformed other otherTransform =>
          rcases eq_of_descriptionAround_eq [("transform", .text (Transform.name transform))]
              [("transform", .text (Transform.name otherTransform))] leftDescribed rightDescribed with
            ⟨sameMembers, _, innerDescribed, otherDescribed⟩
          have sameName : Transform.name transform = Transform.name otherTransform := by
            simpa using sameMembers
          rw [names leftBuilt.1 rightBuilt.1 sameName,
            eq_of_description_eq names documents inner other _ leftBuilt.2 rightBuilt.2
              innerDescribed otherDescribed]
      | _ => simp [kind] at sameKind
  | .nullable inner, right, document, leftBuilt, rightBuilt, leftDescribed, rightDescribed => by
      have sameKind := kind_eq_of_description_eq leftDescribed rightDescribed
      cases right with
      | nullable other =>
          rcases eq_of_descriptionAround_eq [] [] leftDescribed rightDescribed with
            ⟨_, _, innerDescribed, otherDescribed⟩
          rw [eq_of_description_eq names documents inner other _ leftBuilt rightBuilt
            innerDescribed otherDescribed]
      | _ => simp [kind] at sameKind
  | .collection inner, right, document, leftBuilt, rightBuilt, leftDescribed, rightDescribed => by
      have sameKind := kind_eq_of_description_eq leftDescribed rightDescribed
      cases right with
      | collection other =>
          rcases eq_of_descriptionAround_eq [] [] leftDescribed rightDescribed with
            ⟨_, _, innerDescribed, otherDescribed⟩
          rw [eq_of_description_eq names documents inner other _ leftBuilt rightBuilt
            innerDescribed otherDescribed]
      | _ => simp [kind] at sameKind
  | .keys required optional, right, document, _, _, leftDescribed, rightDescribed => by
      have sameKind := kind_eq_of_description_eq leftDescribed rightDescribed
      cases right with
      | keys otherRequired otherOptional =>
          cases leftDescribed
          simp only [description, Except.ok.injEq, documentOf_eq_iff, List.cons.injEq,
            Prod.mk.injEq, true_and, and_true] at rightDescribed
          rw [identifiersDocument_injective rightDescribed.1,
            identifiersDocument_injective rightDescribed.2]
      | _ => simp [kind] at sameKind
  | .foreign _, _, _, leftBuilt, _, _, _ => leftBuilt.elim

/-- Several expressions can be told from their descriptions. -/
theorem eq_of_partsDescription_eq (names : transforms.InjOn Transform.name)
    (documents : limits.InjOn Quantity.document) :
    ∀ (left right : List (Validator τ)) (described : List Json),
      PartsBuiltFrom transforms limits left → PartsBuiltFrom transforms limits right →
      partsDescription left = .ok described → partsDescription right = .ok described → left = right
  | [], right, described, _, _, leftDescribed, rightDescribed => by
      cases right with
      | nil => rfl
      | cons part rest =>
          cases leftDescribed
          rcases bind_eq_ok_iff.mp rightDescribed with ⟨_, _, restDescribed⟩
          rcases bind_eq_ok_iff.mp restDescribed with ⟨_, _, impossible⟩
          cases impossible
  | part :: rest, right, described, leftBuilt, rightBuilt, leftDescribed, rightDescribed => by
      rcases bind_eq_ok_iff.mp leftDescribed with ⟨first, firstDescribed, others⟩
      rcases bind_eq_ok_iff.mp others with ⟨restDocuments, restDescribed, ⟨⟩⟩
      cases right with
      | nil => cases rightDescribed
      | cons otherPart otherRest =>
          rcases bind_eq_ok_iff.mp rightDescribed with ⟨_, otherDescribed, otherOthers⟩
          rcases bind_eq_ok_iff.mp otherOthers with ⟨_, otherRestDescribed, ⟨⟩⟩
          rw [eq_of_description_eq names documents part otherPart _ leftBuilt.1 rightBuilt.1
              firstDescribed otherDescribed,
            eq_of_partsDescription_eq names documents rest otherRest _ leftBuilt.2 rightBuilt.2
              restDescribed otherRestDescribed]

end

/-- Integers are shown by different documents. -/
theorem injOn_document_integers : (Set.range Quantity.whole).InjOn Quantity.document := by
  rintro _ ⟨number, rfl⟩ _ ⟨other, rfl⟩ same
  have sameNumber : Json.integer number = .integer other := same
  rw [Json.integer.inj sameNumber]

end Validator

namespace Catalog

/-- Whether all declarations of a catalog are expressions with some transforms and limits. -/
def IsBuiltFrom (transforms : Set τ) (limits : Set Quantity) (catalog : Catalog τ) : Prop :=
  ∀ entry ∈ catalog.declarations.entries, entry.2.IsBuiltFrom transforms limits

variable [Transform τ] {transforms : Set τ} {limits : Set Quantity} {catalog : Catalog τ}
  {entries others : List (Identifier × Validator τ)} {described : List (String × Json)}

/-- Whether an item is the description of a declaration, under its written identifier. -/
def IsDescribedBy (entry : Identifier × Validator τ) (item : String × Json) : Prop :=
  item.1 = entry.1.text ∧ entry.2.description = .ok item.2

theorem descriptions_eq_ok_iff :
    catalog.descriptions = .ok described ↔
      List.Forall₂ IsDescribedBy catalog.declarations.entries described := by
  rw [descriptions, mapM_eq_ok_iff, eq_comm, ← List.forall₂_eq_eq_eq, List.forall₂_map_left_iff,
    List.forall₂_map_right_iff]
  constructor
  · intro calculated
    refine calculated.imp fun entry item same => ?_
    rcases bind_eq_ok_iff.mp same with ⟨document, documentEq, ⟨⟩⟩
    exact ⟨rfl, documentEq⟩
  · intro describes
    refine describes.imp fun entry item ⟨name, documentEq⟩ => ?_
    exact bind_eq_ok_iff.mpr ⟨item.2, documentEq, by rw [← name]; rfl⟩

theorem names_of_forall₂ (describes : List.Forall₂ IsDescribedBy entries described) :
    described.map Prod.fst = (entries.map Prod.fst).map Identifier.text := by
  induction describes with
  | nil => rfl
  | cons head _ ih => rw [List.map_cons, List.map_cons, List.map_cons, ih, head.1]

/-- Declarations that are expressions can be told from what describes them. -/
theorem eq_of_forall₂ (names : transforms.InjOn Transform.name)
    (documents : limits.InjOn Quantity.document)
    (built : ∀ entry ∈ entries, entry.2.IsBuiltFrom transforms limits)
    (othersBuilt : ∀ entry ∈ others, entry.2.IsBuiltFrom transforms limits)
    (describes : List.Forall₂ IsDescribedBy entries described)
    (describesOthers : List.Forall₂ IsDescribedBy others described) : entries = others := by
  induction describes generalizing others with
  | nil =>
      cases describesOthers
      rfl
  | @cons entry item _ _ head _ ih =>
      cases describesOthers with
      | @cons other _ _ _ otherHead otherTail =>
          rcases List.forall_mem_cons.mp built with ⟨entryBuilt, built⟩
          rcases List.forall_mem_cons.mp othersBuilt with ⟨otherBuilt, othersBuilt⟩
          have identifiers : entry.1 = other.1 :=
            Identifier.text_injective (head.1.symm.trans otherHead.1)
          have validators : entry.2 = other.2 :=
            Validator.eq_of_description_eq names documents _ _ _ entryBuilt otherBuilt head.2
              otherHead.2
          rw [ih built othersBuilt otherTail, Prod.ext identifiers validators]

/-- A catalog of expressions has descriptions. -/
theorem exists_descriptions (built : catalog.IsBuiltFrom transforms limits) :
    ∃ described, catalog.descriptions = .ok described := by
  rcases outcome : catalog.descriptions with value | described
  · rcases exists_of_mapM_eq_error outcome with ⟨entry, mem, failed⟩
    rcases Validator.exists_description entry.2 (built entry mem) with ⟨document, documentEq⟩
    rw [documentEq] at failed
    cases failed
  · exact ⟨described, rfl⟩

/-- The names of descriptions are the written forms of the identifiers, all different. -/
theorem nodup_names (describes : catalog.descriptions = .ok described) :
    described.map Prod.fst = catalog.identifiers.map Identifier.text ∧
      (described.map Prod.fst).Nodup := by
  have names := names_of_forall₂ (descriptions_eq_ok_iff.mp describes)
  refine ⟨names, ?_⟩
  rw [names]
  exact List.Nodup.map (fun _ _ => Identifier.text_injective) catalog.declarations.nodup_keys

/-- A catalog of expressions can be told from its descriptions. -/
theorem eq_of_descriptions_eq (names : transforms.InjOn Transform.name)
    (documents : limits.InjOn Quantity.document) {other : Catalog τ}
    (built : catalog.IsBuiltFrom transforms limits) (otherBuilt : other.IsBuiltFrom transforms limits)
    (same : catalog.descriptions = other.descriptions) : catalog = other := by
  rcases exists_descriptions built with ⟨described, catalogDescribed⟩
  have otherDescribed := same.symm.trans catalogDescribed
  have entries := eq_of_forall₂ names documents built otherBuilt
    (descriptions_eq_ok_iff.mp catalogDescribed) (descriptions_eq_ok_iff.mp otherDescribed)
  have declarations : catalog.declarations = other.declarations := OrderedMap.ext entries
  cases catalog
  exact congrArg Catalog.mk declarations

/--
Let different transforms have different names. Then a validator with these transforms, and with
integers as limits, can be told from its description. The descriptions of every catalog of
expressions are those of its declarations, in their order, under the written forms of their
identifiers, which all differ; so a catalog of such validators can be told from its descriptions,
too.
-/
theorem descriptions_tell_apart {known : Set τ} (names : known.InjOn Transform.name) :
    (∀ left right : Validator τ, left.IsBuiltFrom known (Set.range .whole) →
        right.IsBuiltFrom known (Set.range .whole) → left.description = right.description →
          left = right) ∧
      (∀ catalog : Catalog τ, catalog.IsBuiltFrom Set.univ Set.univ →
        ∃ described, catalog.descriptions = .ok described ∧
          List.Forall₂ IsDescribedBy catalog.declarations.entries described ∧
          (described.map Prod.fst).Nodup) ∧
      ∀ left right : Catalog τ, left.IsBuiltFrom known (Set.range .whole) →
        right.IsBuiltFrom known (Set.range .whole) → left.descriptions = right.descriptions →
          left = right := by
  have documents := Validator.injOn_document_integers
  refine ⟨?_, ?_, ?_⟩
  · intro left right leftBuilt rightBuilt same
    rcases Validator.exists_description left leftBuilt with ⟨document, described⟩
    exact Validator.eq_of_description_eq names documents left right document leftBuilt rightBuilt
      described (same.symm.trans described)
  · intro catalog built
    rcases exists_descriptions built with ⟨described, catalogDescribed⟩
    exact ⟨described, catalogDescribed, descriptions_eq_ok_iff.mp catalogDescribed,
      (nodup_names catalogDescribed).2⟩
  · intro left right leftBuilt rightBuilt same
    exact eq_of_descriptions_eq names documents leftBuilt rightBuilt same

end Catalog

namespace Sample

/-- The only conversion leaves values as they are. -/
instance : Conversion Unit := ⟨fun _ => "identity", fun _ => .ok⟩

def asIs : StandardTransform Unit := .functions "as_is" () ()

def weathers : StandardTransform Unit :=
  .members ⟨⟨"Weather", "sky", "Weather"⟩, [("FAIR", ⟨"FAIR", .text "fair"⟩)], none⟩

/-- The values of a column of short texts that may be absent and are transformed. -/
def remark (transform : StandardTransform Unit) : Validator (StandardTransform Unit) :=
  .nullable (.transformed (.allOf [.base "text", .maxLength (.whole 40)]) transform)

def remarks (transform : StandardTransform Unit) : Catalog (StandardTransform Unit) :=
  .ofList [(inApp "remark" (by decide), remark transform)]

/-- The column's transform can be told from the description of the catalog. -/
theorem descriptions_remarks_ne :
    Set.InjOn Transform.name {asIs, weathers} ∧
      (remarks asIs).descriptions ≠ (remarks weathers).descriptions := by
  have differ : Transform.name asIs ≠ Transform.name weathers := by decide +kernel
  have names : Set.InjOn Transform.name {asIs, weathers} := by
    rintro _ (rfl | rfl) _ (rfl | rfl) same
    · rfl
    · exact absurd same differ
    · exact absurd same.symm differ
    · rfl
  have built : ∀ transform ∈ ({asIs, weathers} : Set (StandardTransform Unit)),
      (remarks transform).IsBuiltFrom {asIs, weathers} (Set.range .whole) := by
    intro transform mem entry listed
    rcases List.mem_singleton.mp listed with rfl
    exact ⟨mem, trivial, ⟨40, rfl⟩, trivial⟩
  refine ⟨names, fun same => ?_⟩
  have catalogs := (Catalog.descriptions_tell_apart names).2.2 (remarks asIs) (remarks weathers)
    (built asIs (Or.inl rfl)) (built weathers (Or.inr rfl)) same
  have entries : [(inApp "remark" (by decide), remark asIs)] =
      [(inApp "remark" (by decide), remark weathers)] :=
    congrArg (fun catalog => catalog.declarations.entries) catalogs
  cases entries

end Sample

end EntityCatalog
