import EntityCatalog.Proofs.Catalog.Depth

/-!
# What an evaluation depends on

A validator consults the identifiers that it names, in references or among the keys of rows, and
those that their declarations consult in turn. Keys that are not declared are consulted as well,
since a declaration of them would count. An evaluation looks up nothing else. So two catalogs that
declare the same, or both nothing, for all identifiers that are consulted give the same answers
within however many levels, and other declarations may be added or replaced without any difference.
-/

namespace EntityCatalog

variable {τ : Type}

section Items

variable {α : Type} {explain other : α → Evaluation (List Problem)} {items : List α}
  (same : ∀ item ∈ items, other item = explain item)

include same

theorem collectProblems_eq_of_forall_mem :
    collectProblems other items = collectProblems explain items := by
  induction items with
  | nil => rfl
  | cons item rest ih =>
      rw [List.forall_mem_cons] at same
      rw [collectProblems, collectProblems, same.1, ih same.2]

theorem firstProblems_eq_of_forall_mem :
    firstProblems other items = firstProblems explain items := by
  induction items with
  | nil => rfl
  | cons item rest ih =>
      rw [List.forall_mem_cons] at same
      rw [firstProblems, firstProblems, same.1, ih same.2]

end Items

namespace Validator

mutual

/-- The identifiers that a validator names, in references and among the keys of rows. -/
def named : Validator τ → List Identifier
  | .reference target => [target]
  | .keys required optional => allKeys required optional
  | .allOf parts => partsNamed parts
  | .transformed inner _ => inner.named
  | .nullable inner => inner.named
  | .collection inner => inner.named
  | _ => []

/-- The identifiers that several validators name. -/
def partsNamed : List (Validator τ) → List Identifier
  | [] => []
  | part :: rest => part.named ++ partsNamed rest

end

theorem named_subset_partsNamed {part : Validator τ} {parts : List (Validator τ)}
    (mem : part ∈ parts) : part.named ⊆ partsNamed parts := by
  induction parts with
  | nil => cases mem
  | cons first rest ih =>
      rw [partsNamed]
      rcases List.mem_cons.mp mem with rfl | later
      · exact List.subset_append_left _ _
      · exact List.Subset.trans (ih later) (List.subset_append_right _ _)

end Validator

namespace Catalog

/-- Whether a validator names an identifier, itself or through declarations of what it names. -/
inductive Consults (catalog : Catalog τ) (validator : Validator τ) : Identifier → Prop where
  | named {identifier : Identifier} (mem : identifier ∈ validator.named) :
      Consults catalog validator identifier
  | through {source identifier : Identifier} {declaration : Validator τ}
      (consulted : Consults catalog validator source)
      (declared : catalog.declared? source = some declaration)
      (mem : identifier ∈ declaration.named) : Consults catalog validator identifier

/-- Whether two catalogs declare the same for everything that a validator consults. -/
def AgreesAbout (catalog other : Catalog τ) (validator : Validator τ) : Prop :=
  ∀ identifier, catalog.Consults validator identifier →
    other.declared? identifier = catalog.declared? identifier

variable {catalog other : Catalog τ} {validator part declaration : Validator τ}
  {identifier source : Identifier}

namespace Consults

theorem mono (subset : part.named ⊆ validator.named)
    (consults : catalog.Consults part identifier) : catalog.Consults validator identifier := by
  induction consults with
  | named mem => exact .named (subset mem)
  | through _ declared mem ih => exact .through ih declared mem

theorem of_declared (mem : source ∈ validator.named)
    (declared : catalog.declared? source = some declaration)
    (consults : catalog.Consults declaration identifier) :
    catalog.Consults validator identifier := by
  induction consults with
  | named next => exact .through (.named mem) declared next
  | through _ found next ih => exact .through ih found next

/-- A list with everything that is named by the validator and by its own declarations is enough. -/
theorem mem_of_closed {listed : List Identifier} (start : validator.named ⊆ listed)
    (closed : ∀ key ∈ listed, ∀ declaration ∈ catalog.declared? key, declaration.named ⊆ listed)
    (consults : catalog.Consults validator identifier) : identifier ∈ listed := by
  induction consults with
  | named mem => exact start mem
  | through _ declared mem ih => exact closed _ ih _ declared mem

end Consults

namespace AgreesAbout

variable (agrees : catalog.AgreesAbout other validator)

include agrees

theorem declared?_eq (mem : identifier ∈ validator.named) :
    other.declared? identifier = catalog.declared? identifier :=
  agrees identifier (.named mem)

theorem mono (subset : part.named ⊆ validator.named) : catalog.AgreesAbout other part :=
  fun identifier consults => agrees identifier (consults.mono subset)

theorem of_declared (mem : source ∈ validator.named)
    (declared : catalog.declared? source = some declaration) :
    catalog.AgreesAbout other declaration :=
  fun identifier consults => agrees identifier (consults.of_declared mem declared)

/-- Where two catalogs agree, the same identifiers are consulted in both. -/
theorem consults_iff :
    other.Consults validator identifier ↔ catalog.Consults validator identifier := by
  constructor
  · intro consults
    induction consults with
    | named mem => exact .named mem
    | through _ declared mem ih => exact .through ih ((agrees _ ih).symm.trans declared) mem
  · intro consults
    induction consults with
    | named mem => exact .named mem
    | through consulted declared mem ih =>
        exact .through ih ((agrees _ consulted).trans declared) mem

end AgreesAbout

theorem find?_update_of_notMem {newer : Catalog τ} (absent : identifier ∉ newer.identifiers) :
    (catalog.update newer).find? identifier = catalog.find? identifier := by
  have notFound : newer.declarations.get? identifier = none :=
    OrderedMap.get?_eq_none_iff.mpr absent
  rw [find?, update, OrderedMap.get?_overlay, notFound, Option.none_or]
  rfl

theorem agreesAbout_update {newer : Catalog τ}
    (apart : ∀ identifier ∈ newer.identifiers, ¬catalog.Consults validator identifier) :
    catalog.AgreesAbout (catalog.update newer) validator := by
  intro identifier consults
  have absent : identifier ∉ newer.identifiers := fun mem => apart identifier mem consults
  rw [declared?, declared?, find?_update_of_notMem absent]

variable [Transform τ]

section Step

variable {explain otherExplain : Validator τ → Value → String → Evaluation (List Problem)}
  (same : ∀ {next}, catalog.AgreesAbout other next → ∀ value path,
    otherExplain next value path = explain next value path)

include same

omit [Transform τ] in
theorem explainEntry_eq_of_agreesAbout (agrees : catalog.AgreesAbout other validator)
    {key : Identifier} (mem : key ∈ validator.named) (entries : List (Value × Value))
    (path : String) :
    other.explainEntry otherExplain entries path key =
      catalog.explainEntry explain entries path key := by
  rw [explainEntry, explainEntry, agrees.declared?_eq mem]
  rcases rowItem? entries key with _ | item
  · rfl
  · rcases found : catalog.declared? key with _ | declaration
    · rfl
    · exact same (agrees.of_declared mem found) item _

/-- A level gives the same in both catalogs if the next one does wherever they agree. -/
theorem explainStep_eq_of_agreesAbout (agrees : catalog.AgreesAbout other validator)
    (value : Value) (path : String) :
    other.explainStep otherExplain validator value path =
      catalog.explainStep explain validator value path := by
  cases validator with
  | base typeName => rfl
  | reference target =>
      have mem : target ∈ (Validator.reference target : Validator τ).named := List.mem_singleton_self _
      simp only [explainStep, agrees.declared?_eq mem]
      rcases found : catalog.declared? target with _ | declaration
      · rfl
      · exact same (agrees.of_declared mem found) value path
  | oneOf labels => rfl
  | maxLength limit => rfl
  | allOf parts =>
      apply firstProblems_eq_of_forall_mem
      intro part mem
      exact same (agrees.mono (Validator.named_subset_partsNamed mem)) value path
  | transformed inner transform =>
      have inside : catalog.AgreesAbout other inner := agrees.mono (List.Subset.refl _)
      simp only [explainStep, same inside]
  | nullable inner =>
      have inside : catalog.AgreesAbout other inner := agrees.mono (List.Subset.refl _)
      simp only [explainStep, same inside]
  | collection inner =>
      have inside : catalog.AgreesAbout other inner := agrees.mono (List.Subset.refl _)
      simp only [explainStep, same inside]
  | keys required optional =>
      have collected (entries : List (Value × Value)) :
          collectProblems (other.explainEntry otherExplain entries path)
              (Validator.allKeys required optional) =
            collectProblems (catalog.explainEntry explain entries path)
              (Validator.allKeys required optional) :=
        collectProblems_eq_of_forall_mem fun key mem =>
          explainEntry_eq_of_agreesAbout same agrees mem entries path
      simp only [explainStep, collected]
  | foreign foreign => rfl

end Step

/-- Within however many levels, catalogs that agree about a validator give the same answer. -/
theorem AgreesAbout.explainWithin_eq (agrees : catalog.AgreesAbout other validator) (levels : Nat)
    (value : Value) (path : String) :
    other.explainWithin levels validator value path =
      catalog.explainWithin levels validator value path := by
  -- Declarations may lead back to each other, so only the levels get fewer.
  induction levels generalizing validator value path with
  | zero => rfl
  | succ levels ih =>
      rw [explainWithin_succ, explainWithin_succ]
      exact explainStep_eq_of_agreesAbout ih agrees value path

theorem AgreesAbout.settles_iff (agrees : catalog.AgreesAbout other validator) (value : Value)
    (path : String) : other.Settles validator value path ↔ catalog.Settles validator value path := by
  simp only [Settles, agrees.explainWithin_eq]

/--
Catalogs that declare the same for everything that a validator consults make it consult the same
identifiers, and give the same answer for every value: the same problems, the same failure, or none
within however many levels. So declarations that the validator does not consult may be laid over a
catalog without any difference to its answers, to whether a value conforms, and to what is valid for
an identifier that the validator stays declared for.
-/
theorem explain_depends_on_consulted (catalog : Catalog τ) (validator : Validator τ) :
    (∀ other, catalog.AgreesAbout other validator →
        (∀ identifier, other.Consults validator identifier ↔
          catalog.Consults validator identifier) ∧
        ∀ value path,
          (∀ levels, other.explainWithin levels validator value path =
            catalog.explainWithin levels validator value path) ∧
          other.explain validator value path = catalog.explain validator value path ∧
          (other.Settles validator value path ↔ catalog.Settles validator value path)) ∧
      ∀ newer : Catalog τ,
        (∀ identifier ∈ newer.identifiers, ¬catalog.Consults validator identifier) →
          ∀ value path,
            (∀ levels, (catalog.update newer).explainWithin levels validator value path =
              catalog.explainWithin levels validator value path) ∧
            (catalog.update newer).conforms validator value = catalog.conforms validator value ∧
            ∀ identifier ∉ newer.identifiers, catalog.find? identifier = some validator →
              (catalog.update newer).isValid identifier value =
                catalog.isValid identifier value := by
  constructor
  · intro other agrees
    refine ⟨fun _ => agrees.consults_iff, fun value path => ⟨?_, ?_, ?_⟩⟩
    · exact fun levels => agrees.explainWithin_eq levels value path
    · exact agrees.explainWithin_eq greatestDepth value path
    · exact agrees.settles_iff value path
  · intro newer apart value path
    have same (path : String) (levels : Nat) :
        (catalog.update newer).explainWithin levels validator value path =
          catalog.explainWithin levels validator value path :=
      (agreesAbout_update apart).explainWithin_eq levels value path
    refine ⟨same path, ?_, ?_⟩
    · simp only [conforms, explain, same]
    · intro identifier absent listed
      have stillListed : (catalog.update newer).find? identifier = some validator :=
        (find?_update_of_notMem absent).trans listed
      simp only [isValid, explainListed, listed, stillListed, explain, same]

end Catalog

namespace Sample

/-- A name for the labels of nodes, which the declarations of trees do not use. -/
def treeLabel : Identifier := inApp "label" (by decide)

def labels : Catalog Empty := .ofList [(treeLabel, .maxLength (.whole 8))]

/-- The declarations of trees in another order, behind one that they do not use. -/
def forest : Catalog Empty :=
  .ofList
    [(treeLabel, .maxLength (.whole 8)),
      (treeChildren, .collection (.reference treeNode)),
      (treeParent, .nullable (.reference treeNode)),
      (treeNode, .keys [] [treeParent, treeChildren])]

theorem consulted_of_tree {identifier : Identifier}
    (consults : tree.Consults (.reference treeNode) identifier) :
    identifier ∈ [treeNode, treeParent, treeChildren] :=
  consults.mem_of_closed (by decide) (by decide +kernel)

/-- Nodes lead to each other in circles, but never to labels. -/
theorem explain_family_of_forest :
    tree.AgreesAbout forest (.reference treeNode) ∧
      forest.explain (.reference treeNode) family "value" = .ok [] ∧
      (∀ identifier ∈ labels.identifiers, ¬tree.Consults (.reference treeNode) identifier) ∧
      (tree.update labels).conforms (.reference treeNode) family = .ok true := by
  have agrees : tree.AgreesAbout forest (.reference treeNode) := by
    have each : ∀ identifier ∈ [treeNode, treeParent, treeChildren],
        forest.declared? identifier = tree.declared? identifier := by decide +kernel
    exact fun identifier consults => each identifier (consulted_of_tree consults)
  have apart : ∀ identifier ∈ labels.identifiers,
      ¬tree.Consults (.reference treeNode) identifier := by
    have unlisted : ∀ identifier ∈ labels.identifiers,
        identifier ∉ [treeNode, treeParent, treeChildren] := by decide +kernel
    exact fun identifier mem consults => unlisted identifier mem (consulted_of_tree consults)
  rcases Catalog.explain_depends_on_consulted tree (.reference treeNode) with
    ⟨agreeing, updated⟩
  refine ⟨agrees, ?_, apart, ?_⟩
  · rw [((agreeing forest agrees).2 family "value").2.1]
    decide +kernel
  · rw [(updated labels apart family "value").2.1]
    decide +kernel

end Sample

end EntityCatalog
