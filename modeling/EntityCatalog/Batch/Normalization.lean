import EntityCatalog.Entity.Declaration
import EntityCatalog.Entity.Report
import EntityCatalog.Record.Entity

/-!
# Entities from reports

A reported entity and its declaration make an entity. Its columns keep the reported order; a
column belongs to the scope of the entity unless an override names it otherwise. Arrays are told
by the code of their category and give up one leading underscore of their type's name. An
enumeration has labels and no columns, and every other entity has columns and no labels.
-/

namespace EntityCatalog

/-- The code of the category of arrays. -/
def arrayCode : String := "A"

/-- The code of the category of composite types. -/
def compositeCode : String := "C"

/-- The code of the category of enumerations. -/
def enumerationCode : String := "E"

/-- A type's name without one leading underscore. -/
def elementTypeName (typeName : String) : String :=
  match typeName.toList with
  | '_' :: rest => String.ofList rest
  | _ => typeName

namespace ReportedColumn

/-- The category of a reported column. -/
def columnCategory (reported : ReportedColumn) : ColumnCategory :=
  if reported.category = arrayCode then .array
  else if reported.isEnumeration ∨ reported.category = enumerationCode then .enumeration
  else if reported.category = compositeCode then .composite
  else .scalar

/-- The name of the type, or of the element type of an array. -/
def columnTypeName (reported : ReportedColumn) : String :=
  if reported.columnCategory = .array then elementTypeName reported.typeName
  else reported.typeName

end ReportedColumn

namespace Declaration

variable {τ : Type}

/-- What a declaration says about a reported column. -/
def override? (declaration : Declaration τ) (reported : ReportedColumn) :
    Option (ColumnOverride τ) :=
  declaration.options.columns.get? reported.name

/-- The identifier of a reported column: the override's, or the name in the entity's scope. -/
def columnIdentifier (declaration : Declaration τ) (reported : ReportedColumn) : Identifier :=
  ((declaration.override? reported).bind ColumnOverride.identifier).getD
    (declaration.identifier.sibling reported.name reported.name_ne_empty)

end Declaration

variable {τ : Type}

/-- The name of a reported column's type; only an array type may have none but its underscore. -/
def ReportedColumn.checkTypeName (reported : ReportedColumn) : Checked NonemptyText :=
  (Datum.text reported.columnTypeName : Datum Empty).checkNonemptyText.behind (.name "type_name")

/--
The modifier of a reported column, zero if there is none. A value that is held in its place is
read like the field of a record.
-/
def ReportedColumn.checkModifier (reported : ReportedColumn) : Checked Quantity :=
  match reported.modifier with
  | none => .valid (.whole 0)
  | some (.whole modifier) => .valid (.whole modifier)
  | some (.held value _) =>
      if value.isVoid then .valid (.whole 0)
      else (Datum.ofValue value : Datum Empty).checkInteger.behind (.name "type_specific_data")

/--
The column of a reported column; refused if the underscore is all of an array type's name, or if
something other than an integer stands in the place of the modifier.
-/
def Column.ofReport (declaration : Declaration τ) (reported : ReportedColumn) :
    Except RecordError (Column τ) :=
  let build : NonemptyText → Quantity → Column τ
    | ⟨typeName, typeName_ne_empty⟩, modifier =>
        { identifier := declaration.columnIdentifier reported
          name := reported.name
          typeName
          category := reported.columnCategory
          notNull := reported.notNull
          isEnumeration := reported.isEnumeration
          hasDefault := reported.hasDefault
          modifier
          elementType :=
            if reported.columnCategory = .array then some (.named reported.columnTypeName) else none
          transform := (declaration.override? reported).bind ColumnOverride.transform
          name_ne_empty := reported.name_ne_empty
          typeName_ne_empty }
  (build <$> reported.checkTypeName <*> reported.checkModifier).toExcept RecordKind.column.title

/-- The columns of a report by identifier; of several with one identifier the last one stays. -/
def columnsOfReport (declaration : Declaration τ) (report : ReportedEntity) :
    Except RecordError (OrderedMap Identifier (Column τ)) := do
  let columns ← report.columns.mapM (Column.ofReport declaration)
  pure (.ofList (columns.map fun column => (column.identifier, column)))

/-- The parts of an entity that come from its declaration. -/
def Entity.ofDeclaration (declaration : Declaration τ) (kind : EntityKind)
    (columns : OrderedMap Identifier (Column τ)) (labels : List String)
    (columns_isEmpty_of_enumeration : kind = .enumeration → columns.isEmpty = true) :
    Entity τ where
  identifier := declaration.identifier
  name := declaration.tableName
  kind := kind
  columns := columns
  insertIdentifier := declaration.identifier.insertIdentifier
  relations := declaration.options.joins
  transform := declaration.options.transform
  labels := labels
  name_ne_empty := declaration.tableName_ne_empty
  columns_isEmpty_of_enumeration := columns_isEmpty_of_enumeration

/-- The entity of a report and its declaration. -/
def Entity.ofReport (report : ReportedEntity) (declaration : Declaration τ) :
    Except RecordError (Entity τ) :=
  if enumeration : report.kind = .enumeration then
    .ok (Entity.ofDeclaration declaration report.kind .empty report.labels fun _ => rfl)
  else do
    let columns ← columnsOfReport declaration report
    pure (Entity.ofDeclaration declaration report.kind columns []
      fun isEnumeration => absurd isEnumeration enumeration)

end EntityCatalog
