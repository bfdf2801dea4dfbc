import EntityCatalog.Entity.Declaration
import EntityCatalog.Record.Field

/-!
# Checks of records of entities

Declarations, reports, columns and entities are built from mappings of their fields. Fields that a
record does not know are ignored. An entity that is an enumeration must not have columns; this is
looked at once all of its fields are valid.
-/

namespace EntityCatalog

/-- The records that are built from mappings. -/
inductive RecordKind where
  | join
  | columnOverride
  | entityOptions
  | declaration
  | column
  | entity
  | reportedColumn
  | reportedEntity
deriving DecidableEq, Repr

/-- The title under which a record is reported. -/
def RecordKind.title : RecordKind → String
  | .join => "JoinSpec"
  | .columnOverride => "ColumnOverride"
  | .entityOptions => "RelationOptions"
  | .declaration => "EntityDeclaration"
  | .column => "ColumnDescriptor"
  | .entity => "EntityDescriptor"
  | .reportedColumn => "RawColumn"
  | .reportedEntity => "RawEntityDescription"

namespace Datum

variable {τ α : Type}

/-- A record of some kind, built from the entries of a mapping. -/
def checkRecord (kind : RecordKind) (build : List (Value × Datum τ) → Checked α) :
    Datum τ → Checked α
  | .mapping entries => build entries
  | _ => .refuse (.recordExpected kind.title)

/-- A join. -/
def checkJoin : Datum τ → Checked Join :=
  checkRecord .join fun entries =>
    (fun kind (localColumn : NonemptyText) target (targetColumn : NonemptyText) =>
      { kind, localColumn := localColumn.1, target, targetColumn := targetColumn.1,
        localColumn_ne_empty := localColumn.2, targetColumn_ne_empty := targetColumn.2 })
      <$> required entries "kind" (checkChoice JoinKind.all JoinKind.text)
      <*> required entries "local_column" checkNonemptyText
      <*> required entries "target" checkIdentifier
      <*> required entries "target_column" checkNonemptyText

/-- The options of one column. -/
def checkColumnOverride : Datum τ → Checked (ColumnOverride τ) :=
  checkRecord .columnOverride fun entries =>
    ColumnOverride.mk
      <$> field entries "identifier" (checkOptional checkIdentifier) (some none)
      <*> field entries "transform" (checkOptional checkTransform) (some none)

/-- The options of an entity. -/
def checkEntityOptions : Datum τ → Checked (EntityOptions τ) :=
  checkRecord .entityOptions fun entries =>
    EntityOptions.mk
      <$> field entries "joins" (checkMapping checkTextKey checkJoin) (some .empty)
      <*> field entries "transform" (checkOptional checkTransform) (some none)
      <*> field entries "columns" (checkMapping checkTextKey checkColumnOverride) (some .empty)

/-- A declaration of an entity. -/
def checkDeclaration : Datum τ → Checked (Declaration τ) :=
  checkRecord .declaration fun entries =>
    (fun (tableName : NonemptyText) identifier options =>
      { tableName := tableName.1, identifier, options, tableName_ne_empty := tableName.2 })
      <$> required entries "table_name" checkNonemptyText
      <*> required entries "identifier" checkIdentifier
      <*> field entries "options" checkEntityOptions (some .none)

/-- A column. -/
def checkColumn : Datum τ → Checked (Column τ) :=
  checkRecord .column fun entries =>
    (fun identifier (name typeName : NonemptyText) category notNull isEnumeration hasDefault
        modifier elementType transform =>
      { identifier, name := name.1, typeName := typeName.1, category, notNull, isEnumeration,
        hasDefault, modifier, elementType, transform, name_ne_empty := name.2,
        typeName_ne_empty := typeName.2 })
      <$> required entries "identifier" checkIdentifier
      <*> required entries "db_name" checkNonemptyText
      <*> required entries "type_name" checkNonemptyText
      <*> field entries "category" (checkChoice ColumnCategory.all ColumnCategory.text)
        (some .scalar)
      <*> field entries "not_null" checkBoolean (some false)
      <*> field entries "enum" checkBoolean (some false)
      <*> field entries "has_default" checkBoolean (some false)
      <*> field entries "type_specific_data" checkInteger (some (.whole 0))
      <*> field entries "element_type" (checkOptional checkElementType) (some none)
      <*> field entries "transform" (checkOptional checkTransform) (some none)

/-- The wording of the rule that an enumeration has no columns. -/
def enumerationColumnsMessage (identifier : Identifier) : String :=
  "Enum entity '" ++ identifier.text ++ "' cannot have columns."

/-- The fields of an entity, from which it is built if it keeps the rule for enumerations. -/
def buildEntity (identifier : Identifier) (name : NonemptyText) (kind : EntityKind)
    (columns : OrderedMap Identifier (Column τ)) (insertIdentifier : Identifier)
    (relations : OrderedMap String Join) (transform : Option τ) (labels : List String) :
    Checked (Entity τ) :=
  if columns_isEmpty_of_enumeration : kind = .enumeration → columns.isEmpty = true then
    .valid
      { identifier, name := name.1, kind, columns, insertIdentifier, relations, transform,
        labels, name_ne_empty := name.2, columns_isEmpty_of_enumeration }
  else .refuse (.ruleBroken (enumerationColumnsMessage identifier))

/-- An entity. -/
def checkEntity : Datum τ → Checked (Entity τ) :=
  checkRecord .entity fun entries =>
    (buildEntity
      <$> required entries "identifier" checkIdentifier
      <*> required entries "db_name" checkNonemptyText
      <*> required entries "kind" (checkChoice EntityKind.all EntityKind.text)
      <*> field entries "columns" (checkMapping checkIdentifierKey checkColumn) (some .empty)
      <*> required entries "insert_identifier" checkIdentifier
      <*> field entries "relations" (checkMapping checkTextKey checkJoin) (some .empty)
      <*> field entries "transform" (checkOptional checkTransform) (some none)
      <*> field entries "values" (checkList checkText) (some [])).andThen id

/-- A reported column. -/
def checkReportedColumn : Datum τ → Checked ReportedColumn :=
  checkRecord .reportedColumn fun entries =>
    (fun (name typeName : NonemptyText) notNull isEnumeration category modifier hasDefault =>
      { name := name.1, typeName := typeName.1, notNull, isEnumeration, category, modifier,
        hasDefault, name_ne_empty := name.2, typeName_ne_empty := typeName.2 })
      <$> required entries "name" checkNonemptyText
      <*> required entries "type_name" checkNonemptyText
      <*> field entries "not_null" checkBoolean (some false)
      <*> field entries "enum" checkBoolean (some false)
      <*> field entries "category" checkText (some "")
      <*> field entries "type_specific_data" (checkOptional checkInteger)
        (some (some (.whole 0)))
      <*> field entries "has_default" checkBoolean (some false)

/-- A reported entity, or a report that was checked before. -/
def checkReportedEntity : Datum τ → Checked ReportedEntity
  | .report content => .valid content
  | datum =>
      datum |> checkRecord .reportedEntity fun entries =>
        ReportedEntity.mk
          <$> required entries "kind" (checkChoice EntityKind.all EntityKind.text)
          <*> field entries "columns" (checkList checkReportedColumn) (some [])
          <*> field entries "values" (checkList checkText) (some [])

end Datum

variable {τ : Type}

/-- The join that a datum describes. -/
def Join.ofDatum (datum : Datum τ) : Except RecordError Join :=
  datum.checkJoin.toExcept RecordKind.join.title

/-- The options of one column that a datum describes. -/
def ColumnOverride.ofDatum (datum : Datum τ) : Except RecordError (ColumnOverride τ) :=
  datum.checkColumnOverride.toExcept RecordKind.columnOverride.title

/-- The options of an entity that a datum describes. -/
def EntityOptions.ofDatum (datum : Datum τ) : Except RecordError (EntityOptions τ) :=
  datum.checkEntityOptions.toExcept RecordKind.entityOptions.title

/-- The declaration that a datum describes. -/
def Declaration.ofDatum (datum : Datum τ) : Except RecordError (Declaration τ) :=
  datum.checkDeclaration.toExcept RecordKind.declaration.title

/-- The column that a datum describes. -/
def Column.ofDatum (datum : Datum τ) : Except RecordError (Column τ) :=
  datum.checkColumn.toExcept RecordKind.column.title

/-- The entity that a datum describes. -/
def Entity.ofDatum (datum : Datum τ) : Except RecordError (Entity τ) :=
  datum.checkEntity.toExcept RecordKind.entity.title

/-- The reported column that a datum describes. -/
def ReportedColumn.ofDatum (datum : Datum τ) : Except RecordError ReportedColumn :=
  datum.checkReportedColumn.toExcept RecordKind.reportedColumn.title

/-- The report that a datum describes. -/
def ReportedEntity.ofDatum (datum : Datum τ) : Except RecordError ReportedEntity :=
  datum.checkReportedEntity.toExcept RecordKind.reportedEntity.title

end EntityCatalog
