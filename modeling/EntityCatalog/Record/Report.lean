import EntityCatalog.Record.Entity

/-!
# Reports as values

A report of the database can stand wherever a value can. It is a record of its fields, and so is
each of its columns.
-/

namespace EntityCatalog

/-- The enumeration of the kinds of entities. -/
def EntityKind.enumerationName : EnumerationName :=
  ⟨"EntityKind", "", "EntityKind"⟩

/-- A kind of entities as a value; its name is its word in capitals. -/
def EntityKind.toValue (kind : EntityKind) : Value :=
  .member enumerationName (String.ofList (kind.text.toList.map Char.toUpper))
    (.text kind.text)

/-- A reported column as a value. -/
def ReportedColumn.toValue (column : ReportedColumn) : Value :=
  .record RecordKind.reportedColumn.title
    [("name", .text column.name), ("type_name", .text column.typeName),
      ("not_null", .boolean column.notNull), ("enum", .boolean column.isEnumeration),
      ("category", .text column.category),
      ("type_specific_data", (column.modifier.map Quantity.toValue).getD .null),
      ("has_default", .boolean column.hasDefault)]

/-- A report as a value. -/
def ReportedEntity.toValue (report : ReportedEntity) : Value :=
  .record RecordKind.reportedEntity.title
    [("kind", report.kind.toValue), ("columns", .list (report.columns.map ReportedColumn.toValue)),
      ("values", .list (report.labels.map Value.text))]

end EntityCatalog
