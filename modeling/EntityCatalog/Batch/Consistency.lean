import EntityCatalog.Entity

/-!
# Consistency of a batch

Two rules hold across the entities of a batch. A column that occurs in several entities has the
same declared type everywhere, and no entity has the identifier of a column. The first violation
is reported, in the order of the batch; the rule about types comes first.
-/

namespace EntityCatalog

/-- A violation of one of the two rules. -/
inductive Inconsistency where
  /-- A column occurs with two declared types. -/
  | typeConflict (column : Identifier) (previous new : String)
  /-- An entity has the identifier of a column. -/
  | nameCollision (identifier : Identifier)
deriving DecidableEq, Repr

/-- The wording of the refusal of an entity by its written form, which is also that of a column. -/
def nameCollisionMessage (entity : String) : String :=
  "Entity/column name clash. Entity '" ++ entity ++ "' is also defined as a column."

/-- The wording of an inconsistency. -/
def Inconsistency.message : Inconsistency → String
  | .typeConflict column previous new =>
      "Type mismatch. Column '" ++ column.text ++ "' is already defined as \"" ++ previous ++
        "\" and now trying to define it as \"" ++ new ++
        "\". Check that two entities don't declare the same column with different types in " ++
        "the same scope."
  | .nameCollision identifier => nameCollisionMessage identifier.text

variable {τ : Type}

/-- Every occurrence of a column in a batch, with its declared type, in order. -/
def columnOccurrences (batch : Entities τ) : List (Identifier × String) :=
  batch.values.flatMap fun entity =>
    entity.columns.entries.map fun entry => (entry.1, entry.2.declaredType)

/-- The first occurrence whose type differs from the one seen last for the same column. -/
def firstTypeConflict? (seen : OrderedMap Identifier String) :
    List (Identifier × String) → Option Inconsistency
  | [] => none
  | (column, declared) :: rest =>
      match seen.get? column with
      | some previous =>
          if previous = declared then firstTypeConflict? (seen.insert column declared) rest
          else some (.typeConflict column previous declared)
      | none => firstTypeConflict? (seen.insert column declared) rest

/-- The violation of the rule about types in a batch, if there is one. -/
def typeConflict? (batch : Entities τ) : Option Inconsistency :=
  firstTypeConflict? .empty (columnOccurrences batch)

/-- The first entity of a batch that has the identifier of a column. -/
def nameCollision? (batch : Entities τ) : Option Inconsistency :=
  let columns := (columnOccurrences batch).map Prod.fst
  (batch.keys.find? fun identifier => columns.contains identifier).map .nameCollision

/-- The first violation of the two rules in a batch. -/
def inconsistency? (batch : Entities τ) : Option Inconsistency :=
  (typeConflict? batch).or (nameCollision? batch)

end EntityCatalog
