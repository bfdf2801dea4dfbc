import EntityCatalog.Proofs.Identifier
import EntityCatalog.Proofs.Registration.Provenance

/-!
# Which reported columns an entity has

The columns of an entity are listed by their identifiers, and overrides are free to give two
reported columns the same one. Then only the last of them is kept, in the place of the first, and
nothing is refused. An entity has all of its reported columns exactly if their identifiers differ,
as they do if their names differ and no override renames any of them.
-/

namespace EntityCatalog

variable {τ : Type}

theorem Column.name_of_ofReport {declaration : Declaration τ} {reported : ReportedColumn}
    {column : Column τ} (made : ofReport declaration reported = .ok column) :
    column.name = reported.name := by
  unfold ofReport at made
  rw [Checked.toExcept_eq_ok_iff, Checked.seq_eq_valid_iff] at made
  rcases made with ⟨build, modifier, built, _, rfl⟩
  rcases Checked.map_eq_valid_iff.mp built with ⟨typeName, _, rfl⟩
  rfl

/-- Whether columns are made of reported ones, one by one. -/
def Column.AreMadeOf (declaration : Declaration τ) (listed : List ReportedColumn)
    (columns : List (Column τ)) : Prop :=
  columns.map .ok = listed.map (Column.ofReport declaration)

namespace Column.AreMadeOf

variable {declaration : Declaration τ} {listed : List ReportedColumn} {columns : List (Column τ)}

theorem names_eq (made : AreMadeOf declaration listed columns) :
    columns.map (fun column => (column.identifier, column.name)) =
      listed.map fun reported => (declaration.columnIdentifier reported, reported.name) := by
  induction listed generalizing columns with
  | nil => simpa [AreMadeOf] using made
  | cons reported rest ih =>
      rcases List.map_eq_cons_iff.mp made with ⟨column, others, rfl, first, restMade⟩
      have parts := isMadeOf_of_ofReport first.symm
      rw [List.map_cons, List.map_cons, ih restMade, parts.identifier_eq,
        name_of_ofReport first.symm]

theorem identifiers_eq (made : AreMadeOf declaration listed columns) :
    columns.map Column.identifier = listed.map declaration.columnIdentifier := by
  simpa [Function.comp_def] using congrArg (List.map Prod.fst) made.names_eq

/-- A column among some that are made of reported ones splits both lists in the same place. -/
theorem exists_of_eq_append {column : Column τ} {front back : List (Column τ)}
    (made : AreMadeOf declaration listed (front ++ column :: back)) :
    ∃ reportedFront reported reportedBack,
      listed = reportedFront ++ reported :: reportedBack ∧
        ofReport declaration reported = .ok column ∧
        AreMadeOf declaration reportedBack back := by
  have lists := made.symm
  rw [List.map_append, List.map_cons] at lists
  rcases List.map_eq_append_iff.mp lists with ⟨reportedFront, rest, rfl, _, restMade⟩
  rcases List.map_eq_cons_iff.mp restMade with ⟨reported, reportedBack, rfl, first, backMade⟩
  exact ⟨reportedFront, reported, reportedBack, rfl, first, backMade.symm⟩

/-- A reported column splits both lists in the same place. -/
theorem exists_of_listed_eq_append {reported : ReportedColumn} {front back : List ReportedColumn}
    (made : AreMadeOf declaration (front ++ reported :: back) columns) :
    ∃ columnsFront column columnsBack,
      columns = columnsFront ++ column :: columnsBack ∧
        ofReport declaration reported = .ok column ∧
        AreMadeOf declaration back columnsBack := by
  unfold AreMadeOf at made
  rw [List.map_append, List.map_cons] at made
  rcases List.map_eq_append_iff.mp made with ⟨columnsFront, rest, rfl, _, restMade⟩
  rcases List.map_eq_cons_iff.mp restMade with ⟨column, columnsBack, rfl, first, backMade⟩
  exact ⟨columnsFront, column, columnsBack, rfl, first.symm, backMade⟩

end Column.AreMadeOf

/-- Whether a column is made of the last reported one with an identifier. -/
def Column.IsLastReported (declaration : Declaration τ) (listed : List ReportedColumn)
    (identifier : Identifier) (column : Column τ) : Prop :=
  ∃ front reported back, listed = front ++ reported :: back ∧
    ofReport declaration reported = .ok column ∧
    declaration.columnIdentifier reported = identifier ∧
    identifier ∉ back.map declaration.columnIdentifier

/-- Columns listed by their identifiers, as an entity has them. -/
def Column.byIdentifier (columns : List (Column τ)) : OrderedMap Identifier (Column τ) :=
  .ofList (columns.map fun column => (column.identifier, column))

namespace Column

variable {declaration : Declaration τ} {listed : List ReportedColumn} {columns : List (Column τ)}

theorem keys_byIdentifier (made : AreMadeOf declaration listed columns) :
    (byIdentifier columns).keys = (listed.map declaration.columnIdentifier).eraseDups := by
  rw [byIdentifier, OrderedMap.keys_ofList, List.map_map, ← made.identifiers_eq]
  rfl

/-- The columns that are found are those that no later one with their identifier replaces. -/
theorem get?_byIdentifier_eq_some_iff (made : AreMadeOf declaration listed columns)
    {identifier : Identifier} {column : Column τ} :
    (byIdentifier columns).get? identifier = some column ↔
      IsLastReported declaration listed identifier column := by
  rw [byIdentifier, OrderedMap.get?_ofList_eq_some_iff_last]
  constructor
  · rintro ⟨front, back, parts, fresh⟩
    rcases List.map_eq_append_iff.mp parts with ⟨columnsFront, rest, rfl, rfl, restEq⟩
    rcases List.map_eq_cons_iff.mp restEq with ⟨_, columnsBack, rfl, ⟨⟩, rfl⟩
    rcases made.exists_of_eq_append with
      ⟨reportedFront, reported, reportedBack, rfl, reportedMade, backMade⟩
    refine ⟨reportedFront, reported, reportedBack, rfl, reportedMade,
      (isMadeOf_of_ofReport reportedMade).identifier_eq.symm, ?_⟩
    rw [← backMade.identifiers_eq]
    simpa using fresh
  · rintro ⟨front, reported, back, rfl, reportedMade, same, fresh⟩
    rcases made.exists_of_listed_eq_append with
      ⟨columnsFront, made, columnsBack, rfl, madeEq, backMade⟩
    rw [reportedMade, Except.ok.injEq] at madeEq
    subst madeEq
    rw [← backMade.identifiers_eq] at fresh
    have columnSame := (isMadeOf_of_ofReport reportedMade).identifier_eq.trans same
    refine ⟨columnsFront.map fun column => (column.identifier, column),
      columnsBack.map fun column => (column.identifier, column), ?_, by simpa using fresh⟩
    rw [List.map_append, List.map_cons, columnSame]

end Column

namespace Entity

variable {declaration : Declaration τ} {report : ReportedEntity} {entity : Entity τ}

/--
Whether an entity has one column for each reported one and no others, in reported order, with the
reported names and the identifiers that the declaration gives them.
-/
structure KeepsColumns (entity : Entity τ) (declaration : Declaration τ)
    (report : ReportedEntity) : Prop where
  keys_eq : entity.columns.keys = report.columns.map declaration.columnIdentifier
  columns_eq : entity.columns.values.map (fun column => (column.identifier, column.name)) =
    report.columns.map fun reported => (declaration.columnIdentifier reported, reported.name)

theorem exists_columns_of_ofReport (notEnumeration : report.kind ≠ .enumeration)
    (made : ofReport report declaration = .ok entity) :
    ∃ columns, Column.AreMadeOf declaration report.columns columns ∧
      entity.columns = Column.byIdentifier columns := by
  rw [ofReport, dif_neg notEnumeration] at made
  rcases bind_eq_ok_iff.mp made with ⟨_, columnsMade, ⟨⟩⟩
  rcases bind_eq_ok_iff.mp columnsMade with ⟨columns, listMade, ⟨⟩⟩
  exact ⟨columns, mapM_eq_ok_iff.mp listMade, rfl⟩

/-- An entity is refused for one of its columns only. -/
theorem exists_of_ofReport_eq_error (notEnumeration : report.kind ≠ .enumeration)
    {error : RecordError} (failed : ofReport report declaration = .error error) :
    ∃ reported ∈ report.columns, Column.ofReport declaration reported = .error error := by
  rw [ofReport, dif_neg notEnumeration] at failed
  rcases bind_eq_error_iff.mp failed with columnsFailed | ⟨_, _, ⟨⟩⟩
  rcases bind_eq_error_iff.mp columnsFailed with listFailed | ⟨_, _, ⟨⟩⟩
  exact exists_of_mapM_eq_error listFailed

theorem keepsColumns_iff_nodup {columns : List (Column τ)}
    (made : Column.AreMadeOf declaration report.columns columns)
    (columnsEq : entity.columns = Column.byIdentifier columns) :
    entity.KeepsColumns declaration report ↔
      (report.columns.map declaration.columnIdentifier).Nodup := by
  constructor
  · intro kept
    rw [← kept.keys_eq]
    exact entity.columns.nodup_keys
  · intro nodup
    rw [← made.identifiers_eq] at nodup
    have entries : entity.columns.entries =
        columns.map fun column => (column.identifier, column) := by
      have keysNodup : ((columns.map fun column => (column.identifier, column)).map
          Prod.fst).Nodup := by
        simpa [Function.comp_def] using nodup
      rw [columnsEq, Column.byIdentifier, OrderedMap.entries_ofList keysNodup]
    constructor
    · rw [← made.identifiers_eq, OrderedMap.keys, entries, List.map_map]
      rfl
    · rw [← made.names_eq, OrderedMap.values, entries, List.map_map, List.map_map]
      rfl

/-- Without renamed columns an entity has all that are reported if their names differ. -/
theorem keepsColumns_of_not_renamed (notEnumeration : report.kind ≠ .enumeration)
    (made : ofReport report declaration = .ok entity)
    (nodup : (report.columns.map ReportedColumn.name).Nodup)
    (notRenamed : ∀ reported ∈ report.columns,
      (declaration.override? reported).bind ColumnOverride.identifier = none) :
    entity.KeepsColumns declaration report := by
  rcases exists_columns_of_ofReport notEnumeration made with ⟨columns, areMade, columnsEq⟩
  rw [keepsColumns_iff_nodup areMade columnsEq]
  have names : report.columns.map ReportedColumn.name =
      (report.columns.map declaration.columnIdentifier).map Identifier.name := by
    rw [List.map_map]
    apply List.map_congr_left
    intro reported mem
    simp [Declaration.columnIdentifier, notRenamed reported mem, Identifier.sibling]
  exact List.Nodup.of_map Identifier.name (names ▸ nodup)

end Entity

namespace Sample

/-- A column of a type, with a name of one letter. -/
def reportedLetter (name typeName : String) (name_ne_empty : name ≠ "")
    (typeName_ne_empty : typeName ≠ "") : ReportedColumn :=
  ⟨name, typeName, false, false, "", none, false, name_ne_empty, typeName_ne_empty⟩

/-- A table with two columns of different names. -/
def letters : ReportedEntity :=
  ⟨.table, [reportedLetter "a" "int4" (by decide) (by decide),
    reportedLetter "b" "text" (by decide) (by decide)], []⟩

/-- The identifier of the first column. -/
def firstLetter : Identifier := inApp "a" (by decide)

/-- A declaration that gives the second column the identifier of the first one. -/
def secondAsFirst : Declaration Empty :=
  ⟨"letters", firstLetter.sibling "letters" (by decide),
    ⟨.empty, none, .ofList [("b", ⟨some firstLetter, none⟩)]⟩, by decide⟩

end Sample

/--
The columns of an entity that is not refused are the reported ones that no later one with the same
identifier replaces, and all reported ones are kept exactly if their identifiers differ.
-/
theorem Entity.ofReport_keepsColumns_iff (report : ReportedEntity) (declaration : Declaration τ)
    (notEnumeration : report.kind ≠ .enumeration) :
    (∃ error, Entity.ofReport report declaration = .error error ∧
      ∃ reported ∈ report.columns, Column.ofReport declaration reported = .error error) ∨
    ∃ entity, Entity.ofReport report declaration = .ok entity ∧
      entity.columns.keys = (report.columns.map declaration.columnIdentifier).eraseDups ∧
      (∀ identifier column, entity.columns.get? identifier = some column ↔
        Column.IsLastReported declaration report.columns identifier column) ∧
      (entity.KeepsColumns declaration report ↔
        (report.columns.map declaration.columnIdentifier).Nodup) := by
  rcases outcome : Entity.ofReport report declaration with error | entity
  · exact Or.inl ⟨error, rfl, Entity.exists_of_ofReport_eq_error notEnumeration outcome⟩
  · rcases Entity.exists_columns_of_ofReport notEnumeration outcome with
      ⟨columns, made, columnsEq⟩
    refine Or.inr ⟨entity, rfl, ?_, ?_, Entity.keepsColumns_iff_nodup made columnsEq⟩
    · rw [columnsEq, Column.keys_byIdentifier made]
    · intro identifier column
      rw [columnsEq, Column.get?_byIdentifier_eq_some_iff made]

/-- The table is not refused, and has only one of its two columns. -/
theorem Sample.not_keepsColumns_of_secondAsFirst :
    (letters.columns.map ReportedColumn.name).Nodup ∧
    ∃ entity, Entity.ofReport letters secondAsFirst = .ok entity ∧
      entity.columns.keys = [firstLetter] ∧ ¬entity.KeepsColumns secondAsFirst letters := by
  have notEnumeration : letters.kind ≠ .enumeration := by decide
  have meet : ¬(letters.columns.map secondAsFirst.columnIdentifier).Nodup := by decide +kernel
  have accepted : ∀ reported ∈ letters.columns,
      (Column.ofReport secondAsFirst reported).toBool = true := by decide +kernel
  refine ⟨by decide, ?_⟩
  rcases Entity.ofReport_keepsColumns_iff letters secondAsFirst notEnumeration with
    ⟨error, _, reported, mem, refused⟩ | ⟨entity, made, keysEq, _, keptIff⟩
  · have answered := accepted reported mem
    rw [refused] at answered
    cases answered
  · refine ⟨entity, made, ?_, keptIff.not.mpr meet⟩
    rw [keysEq]
    decide +kernel

end EntityCatalog
