import EntityCatalog.Identifier
import EntityCatalog.OrderedMap
import EntityCatalog.Value.Quantity

/-!
# Entities and their columns

An entity is a table, a view, a composite type or an enumeration type of the database, described
by its columns in the order in which the database reports them, or by its labels. A column is
known by its identifier, which several entities of one scope may share, and by its type: the name
of the type, the element type of an array, and the category that tells equal names apart.
-/

namespace EntityCatalog

/-- What kind of database object an entity is. -/
inductive EntityKind where
  | table
  | view
  | composite
  | enumeration
deriving DecidableEq, Repr

namespace EntityKind

/-- The word for a kind. -/
def text : EntityKind → String
  | .table => "table"
  | .view => "view"
  | .composite => "composite"
  | .enumeration => "enum"

/-- All kinds. -/
def all : List EntityKind := [.table, .view, .composite, .enumeration]

/-- The kind that a word stands for. -/
def ofText? (word : String) : Option EntityKind := all.find? fun kind => kind.text == word

theorem ofText?_text (kind : EntityKind) : ofText? kind.text = some kind := by
  cases kind <;> decide

end EntityKind

/-- The category of a column's type. -/
inductive ColumnCategory where
  | scalar
  | array
  | composite
  | enumeration
deriving DecidableEq, Repr

namespace ColumnCategory

/-- The word for a category. -/
def text : ColumnCategory → String
  | .scalar => "scalar"
  | .array => "array"
  | .composite => "composite"
  | .enumeration => "enum"

/-- All categories. -/
def all : List ColumnCategory := [.scalar, .array, .composite, .enumeration]

end ColumnCategory

/-- How many entities a join leads to. -/
inductive JoinKind where
  | hasOne
  | hasMany
deriving DecidableEq, Repr

namespace JoinKind

/-- The word for a kind of join. -/
def text : JoinKind → String
  | .hasOne => "has_one"
  | .hasMany => "has_many"

/-- All kinds of joins. -/
def all : List JoinKind := [.hasOne, .hasMany]

end JoinKind

/-- A declared relation from one entity to another. -/
@[ext]
structure Join where
  kind : JoinKind
  /-- The column of this entity. -/
  localColumn : String
  target : Identifier
  /-- The column of the joined entity. -/
  targetColumn : String
  localColumn_ne_empty : localColumn ≠ ""
  targetColumn_ne_empty : targetColumn ≠ ""

instance : DecidableEq Join := fun _ _ => decidable_of_iff _ Join.ext_iff.symm

/-- What the elements of an array are: values of an entity, or of a type known by name only. -/
inductive ElementType where
  | entity (identifier : Identifier)
  | named (typeName : String)
deriving DecidableEq

/-- A column of an entity. -/
@[ext]
structure Column (τ : Type) where
  identifier : Identifier
  /-- The name in the database. -/
  name : String
  /-- The name of the type; for an array, of the type of its elements. -/
  typeName : String
  category : ColumnCategory
  notNull : Bool
  /-- Whether the type, or the element type, is an enumeration. -/
  isEnumeration : Bool
  hasDefault : Bool
  /-- The modifier that the database reports for the type, zero if there is none. -/
  modifier : Quantity
  elementType : Option ElementType
  transform : Option τ
  name_ne_empty : name ≠ ""
  typeName_ne_empty : typeName ≠ ""

instance {τ : Type} [DecidableEq τ] : DecidableEq (Column τ) := fun _ _ =>
  decidable_of_iff _ Column.ext_iff.symm

namespace Column

variable {τ : Type}

/-- Whether a column holds arrays. -/
def isArray (column : Column τ) : Bool := column.category == .array

/--
The type as the database declares it: an array has an underscore in front, and composite and
enumeration types carry their category, so that types of one name and different categories
differ.
-/
def declaredType (column : Column τ) : String :=
  match column.category with
  | .array => "_" ++ column.typeName
  | .composite | .enumeration => column.typeName ++ " (" ++ column.category.text ++ ")"
  | .scalar => column.typeName

/-- Whether a complete row has to give the column a value. -/
def isRequired (column : Column τ) : Bool := column.notNull && !column.hasDefault

/--
Whether two columns are the same. Their modifiers are compared as quantities, and only if
everything before them is the same.
-/
def same? [DecidableEq τ] (left right : Column τ) : Except LookupFault Bool :=
  if left.identifier = right.identifier ∧ left.name = right.name ∧
      left.typeName = right.typeName ∧ left.category = right.category ∧
      left.notNull = right.notNull ∧ left.isEnumeration = right.isEnumeration ∧
      left.hasDefault = right.hasDefault then do
    let same ← left.modifier.same? right.modifier
    pure (same && left.elementType == right.elementType && left.transform == right.transform)
  else .ok false

end Column

/-- A table, a view, a composite type or an enumeration type. -/
@[ext]
structure Entity (τ : Type) where
  identifier : Identifier
  /-- The name in the database. -/
  name : String
  kind : EntityKind
  /-- The columns in reported order; an enumeration has none. -/
  columns : OrderedMap Identifier (Column τ)
  /-- The identifier of the declaration of complete rows. -/
  insertIdentifier : Identifier
  relations : OrderedMap String Join
  transform : Option τ
  /-- The labels of an enumeration in their order. -/
  labels : List String
  name_ne_empty : name ≠ ""
  columns_isEmpty_of_enumeration : kind = .enumeration → columns.isEmpty = true

instance {τ : Type} [DecidableEq τ] : DecidableEq (Entity τ) := fun _ _ =>
  decidable_of_iff _ Entity.ext_iff.symm

namespace Entity

variable {τ : Type}

/-- Whether an entity is an enumeration type. -/
def isEnumeration (entity : Entity τ) : Bool := entity.kind == .enumeration

/-- The identifiers of the columns that satisfy a test, in reported order. -/
def columnsWhere (entity : Entity τ) (test : Column τ → Bool) : List Identifier :=
  (entity.columns.entries.filter fun entry => test entry.2).map Prod.fst

/-- The columns that a complete row has to give a value. -/
def requiredColumns (entity : Entity τ) : List Identifier := entity.columnsWhere Column.isRequired

/-- The columns that a complete row may leave out. -/
def optionalColumns (entity : Entity τ) : List Identifier :=
  entity.columnsWhere fun column => !column.isRequired

/-- Replaces every column, keeping their identifiers and their order. -/
def mapColumns (replace : Identifier → Column τ → Column τ) (entity : Entity τ) : Entity τ :=
  { entity with
    columns := entity.columns.mapValues replace
    columns_isEmpty_of_enumeration := fun enumeration => by
      simpa using entity.columns_isEmpty_of_enumeration enumeration }

/--
Whether two entities are the same, in whatever order their columns and relations are. Their columns
are compared only if everything before them is the same.
-/
def same? [DecidableEq τ] (left right : Entity τ) : Except LookupFault Bool :=
  if left.identifier = right.identifier ∧ left.name = right.name ∧ left.kind = right.kind then do
    let columns ← left.columns.agreeBy Column.same? right.columns
    let relations ← left.relations.agreeBy (fun leftJoin rightJoin => .ok (leftJoin == rightJoin))
      right.relations
    pure (columns && left.insertIdentifier == right.insertIdentifier && relations &&
      left.transform == right.transform && left.labels == right.labels)
  else .ok false

@[simp]
theorem columns_mapColumns (replace : Identifier → Column τ → Column τ) (entity : Entity τ) :
    (entity.mapColumns replace).columns = entity.columns.mapValues replace := rfl

end Entity

/-- Entities by the identifier under which they are registered. -/
abbrev Entities (τ : Type) := OrderedMap Identifier (Entity τ)

namespace Entities

variable {τ : Type}

/-- The identifiers of the entities of a kind with a name in the database. -/
def identifiersOf (entities : Entities τ) (name : String) (kind : EntityKind) :
    List Identifier :=
  (entities.entries.filter fun entry => entry.2.kind == kind && entry.2.name == name).map Prod.fst

/--
The entity of a kind with a name in the database. Of several the least identifier is taken, so the
order of the entities does not matter.
-/
def findByName? (entities : Entities τ) (name : String) (kind : EntityKind) :
    Option Identifier :=
  (entities.identifiersOf name kind).min?

theorem mem_identifiersOf_iff {entities : Entities τ} {name : String} {kind : EntityKind}
    {identifier : Identifier} :
    identifier ∈ entities.identifiersOf name kind ↔
      ∃ entity, (identifier, entity) ∈ entities.entries ∧ entity.kind = kind ∧
        entity.name = name := by
  simp only [identifiersOf, List.mem_map, List.mem_filter, Bool.and_eq_true, beq_iff_eq]
  constructor
  · rintro ⟨⟨_, entity⟩, ⟨mem, kind_eq, name_eq⟩, rfl⟩
    exact ⟨entity, mem, kind_eq, name_eq⟩
  · rintro ⟨entity, mem, kind_eq, name_eq⟩
    exact ⟨(identifier, entity), ⟨mem, kind_eq, name_eq⟩, rfl⟩

end Entities

end EntityCatalog
