import EntityCatalog.Json
import EntityCatalog.Transform
import EntityCatalog.Value.Quantity

/-!
# Validators

A validator is an expression for the legal values of a column or of an entity. A column's
validator may defer to the declaration of an entity, apply a transform before it looks at a value,
and allow the absent value or ordered collections; an entity's validator lists the keys of its
rows. `references` gives the entities that an expression defers to, and `description` renders it as
a document.
-/

namespace EntityCatalog

/-- An expression for the legal values of a column or of an entity. -/
inductive Validator (τ : Type) where
  /-- The values of a base type, by its name in the database. -/
  | base (typeName : String)
  /-- The values that satisfy the declaration of an entity. -/
  | reference (target : Identifier)
  /-- One of a fixed set of labels. -/
  | oneOf (labels : List String)
  /-- Texts of at most so many characters. -/
  | maxLength (limit : Quantity)
  /-- The values that satisfy every part. -/
  | allOf (parts : List (Validator τ))
  /-- The values whose stored form satisfies the inner validator. -/
  | transformed (inner : Validator τ) (transform : τ)
  /-- The absent value, and the values that satisfy the inner validator. -/
  | nullable (inner : Validator τ)
  /-- Ordered collections of values that satisfy the inner validator. -/
  | collection (inner : Validator τ)
  /-- Rows with all required keys, whose entries satisfy the declarations of their keys. -/
  | keys (required optional : List Identifier)
  /-- A value that stands where a validator belongs; it cannot be evaluated. -/
  | foreign (value : Value)

namespace Validator

variable {τ : Type}

instance : Inhabited (Validator τ) := ⟨keys [] []⟩

section Equality

variable [DecidableEq τ]

mutual

/-- Whether two validators are the same expression. -/
def equal : Validator τ → Validator τ → Bool
  | .base left, .base right => left == right
  | .reference left, .reference right => left == right
  | .oneOf left, .oneOf right => left == right
  | .maxLength left, .maxLength right => left == right
  | .allOf left, .allOf right => equalParts left right
  | .transformed left leftTransform, .transformed right rightTransform =>
      left.equal right && decide (leftTransform = rightTransform)
  | .nullable left, .nullable right => left.equal right
  | .collection left, .collection right => left.equal right
  | .keys leftRequired leftOptional, .keys rightRequired rightOptional =>
      leftRequired == rightRequired && leftOptional == rightOptional
  | .foreign left, .foreign right => left == right
  | _, _ => false

/-- Whether two lists of validators are the same, part by part. -/
def equalParts : List (Validator τ) → List (Validator τ) → Bool
  | [], [] => true
  | left :: lefts, right :: rights => left.equal right && equalParts lefts rights
  | _, _ => false

end

mutual

theorem equal_iff : ∀ left right : Validator τ, left.equal right = true ↔ left = right
  | .base _, right => by cases right <;> simp [equal]
  | .reference _, right => by cases right <;> simp [equal]
  | .oneOf _, right => by cases right <;> simp [equal]
  | .maxLength _, right => by cases right <;> simp [equal]
  | .allOf parts, right => by
      cases right with
      | allOf rightParts => simp [equal, equalParts_iff parts rightParts]
      | _ => simp [equal]
  | .transformed inner _, right => by
      cases right with
      | transformed rightInner _ => simp [equal, equal_iff inner rightInner]
      | _ => simp [equal]
  | .nullable inner, right => by
      cases right with
      | nullable rightInner => simp [equal, equal_iff inner rightInner]
      | _ => simp [equal]
  | .collection inner, right => by
      cases right with
      | collection rightInner => simp [equal, equal_iff inner rightInner]
      | _ => simp [equal]
  | .keys _ _, right => by cases right <;> simp [equal]
  | .foreign _, right => by cases right <;> simp [equal]

theorem equalParts_iff :
    ∀ left right : List (Validator τ), equalParts left right = true ↔ left = right
  | [], right => by cases right <;> simp [equalParts]
  | head :: tail, right => by
      cases right with
      | nil => simp [equalParts]
      | cons rightHead rightTail =>
        simp [equalParts, equal_iff head rightHead, equalParts_iff tail rightTail]

end

instance : DecidableEq (Validator τ) := fun left right =>
  decidable_of_iff _ (equal_iff left right)

end Equality

/-- All keys that a row may have, the required ones first. -/
def allKeys (required optional : List Identifier) : List Identifier := required ++ optional

mutual

/-- The entities that a validator defers to, as often as it does. -/
def references : Validator τ → List Identifier
  | .reference target => [target]
  | .allOf parts => partsReferences parts
  | .transformed inner _ => inner.references
  | .nullable inner => inner.references
  | .collection inner => inner.references
  | _ => []

/-- The entities that several validators defer to. -/
def partsReferences : List (Validator τ) → List Identifier
  | [] => []
  | part :: rest => part.references ++ partsReferences rest

end

/-- The document of a list of identifiers, by their written forms. -/
def identifiersDocument (identifiers : List Identifier) : Json :=
  .array (identifiers.map fun identifier => .text identifier.text)

/-- An object that opens with the kind of validator it describes. -/
def documentOf (kind : String) (members : List (String × Json)) : Json :=
  .object (("type", .text kind) :: members)

section Description

variable [Transform τ]

mutual

/-- The document that describes a validator, or the value found in place of one. -/
def description : Validator τ → Except Value Json
  | .base typeName => .ok (documentOf "base" [("name", .text typeName)])
  | .reference target => .ok (documentOf "ref" [("identifier", .text target.text)])
  | .oneOf labels => .ok (documentOf "one_of" [("values", .array (labels.map .text))])
  | .maxLength limit => .ok (documentOf "max_length" [("limit", limit.document)])
  | .allOf parts => do
      let parts ← partsDescription parts
      .ok (documentOf "all_of" [("parts", .array parts)])
  | .transformed inner transform => do
      let inner ← inner.description
      .ok (documentOf "transformed"
        [("transform", .text (Transform.name transform)), ("inner", inner)])
  | .nullable inner => do
      let inner ← inner.description
      .ok (documentOf "nullable" [("inner", inner)])
  | .collection inner => do
      let inner ← inner.description
      .ok (documentOf "collection" [("inner", inner)])
  | .keys required optional =>
      .ok (documentOf "keys"
        [("required", identifiersDocument required), ("optional", identifiersDocument optional)])
  | .foreign value => .error value

/-- The documents that describe several validators. -/
def partsDescription : List (Validator τ) → Except Value (List Json)
  | [] => .ok []
  | part :: rest => do
      let first ← part.description
      let others ← partsDescription rest
      .ok (first :: others)

end

end Description

/-- The references of several validators are those of any of them. -/
theorem mem_partsReferences_iff {parts : List (Validator τ)} {target : Identifier} :
    target ∈ partsReferences parts ↔ ∃ part ∈ parts, target ∈ part.references := by
  induction parts with
  | nil => simp [partsReferences]
  | cons part rest ih => simp [partsReferences, ih]

end Validator

end EntityCatalog
