import EntityCatalog.Catalog.Evaluation
import EntityCatalog.Proofs.OrderedMap
import EntityCatalog.Value.Sameness

/-!
# The entries of a row

An entry of a row names a column by the identifier of the column or by its written form. Where a row
has both, the entry under the identifier counts and the one under the written form is passed over.
What a row has for a column is said here by its entries alone, and looking a column up finds just
that. Of entries with one key the first one counts; the keys of a row that is written entry by entry
are all different, so that there every entry with a key counts for it.
-/

namespace EntityCatalog

namespace Value

/-- Whether no key of some entries is the same as an earlier one. -/
def HaveDistinctKeys {α : Type} (entries : List (Value × α)) : Prop :=
  entries.Pairwise fun earlier later => later.1.same earlier.1 = false

section Distinct

variable {α : Type} {entries : List (Value × α)} {key : Value} {content : α}

theorem same_self_of_text (content : String) : (text content).same (text content) = true := by
  simp [same, same?, Scalar.same?, Scalar.magnitude?, Except.toOption]

theorem same_self_of_identifier (column : Identifier) :
    (identifier column).same (identifier column) = true := by
  simp [same, same?, Scalar.same?, Scalar.magnitude?, Except.toOption]

theorem eq_or_mem_of_mem_writeEntry {entry : Value × α}
    (mem : entry ∈ writeEntry key content entries) :
    entry.1 = key ∨ entry.1 ∈ entries.map Prod.fst := by
  induction entries with
  | nil =>
      left
      simp_all [writeEntry]
  | cons first rest ih =>
      by_cases same : key.same first.1
      · simp only [writeEntry, same, if_true, List.mem_cons] at mem
        right
        rcases mem with rfl | later
        · simp
        · exact List.mem_cons_of_mem _ (List.mem_map_of_mem later)
      · simp only [writeEntry, same, Bool.false_eq_true, if_false, List.mem_cons] at mem
        rcases mem with rfl | later
        · simp
        · rcases ih later with written | earlier
          · exact Or.inl written
          · exact Or.inr (List.mem_cons_of_mem _ earlier)

theorem haveDistinctKeys_writeEntry (distinct : HaveDistinctKeys entries) :
    HaveDistinctKeys (writeEntry key content entries) := by
  induction entries with
  | nil => exact List.pairwise_singleton _ _
  | cons first rest ih =>
      rcases List.pairwise_cons.mp distinct with ⟨apart, restDistinct⟩
      by_cases same : key.same first.1
      · simp only [writeEntry, same, if_true]
        exact List.pairwise_cons.mpr ⟨apart, restDistinct⟩
      · simp only [writeEntry, same, Bool.false_eq_true, if_false]
        apply List.pairwise_cons.mpr
        refine ⟨?_, ih restDistinct⟩
        intro entry mem
        rcases eq_or_mem_of_mem_writeEntry mem with written | earlier
        · simpa [written] using same
        · rcases List.mem_map.mp earlier with ⟨other, otherMem, sameKey⟩
          rw [← sameKey]
          exact apart other otherMem

theorem haveDistinctKeys_writtenEntries (entries : List (Value × α)) :
    HaveDistinctKeys (writtenEntries entries) := by
  have fold : ∀ written : List (Value × α), HaveDistinctKeys written →
      HaveDistinctKeys
        (entries.foldl (fun written entry => writeEntry entry.1 entry.2 written) written) := by
    induction entries with
    | nil => exact fun _ distinct => distinct
    | cons first rest ih => exact fun _ distinct => ih _ (haveDistinctKeys_writeEntry distinct)
  exact fold [] List.Pairwise.nil

end Distinct

/-- Whether a key of a row names a column. -/
def Names (name : Value) (column : Identifier) : Prop :=
  name = identifier column ∨ name = text column.text

/-- Whether a key of a row is passed over, as the column stands in the row under its identifier. -/
def IsPassedOver (entries : List (Value × Value)) (name : Value) (column : Identifier) : Prop :=
  name = text column.text ∧ identifier column ∈ entries.map Prod.fst

/-- Whether a value stands under a key, in the first entry that has this key. -/
def StandsUnder (entries : List (Value × Value)) (name item : Value) : Prop :=
  ∃ front back, entries = front ++ (name, item) :: back ∧ name ∉ front.map Prod.fst

/-- Whether a value is what a row has for a column: it stands under a name that counts. -/
def IsItemOf (entries : List (Value × Value)) (column : Identifier) (item : Value) : Prop :=
  ∃ name, StandsUnder entries name item ∧ name.Names column ∧ ¬IsPassedOver entries name column

section Entries

variable {entries : List (Value × Value)} {column : Identifier} {name item : Value}

theorem Names.same_self (names : name.Names column) : name.same name = true := by
  rcases names with rfl | rfl
  · exact same_self_of_identifier column
  · exact same_self_of_text column.text

/-- Where keys are different, every entry has the value that stands under its key. -/
theorem standsUnder_iff_mem (distinct : HaveDistinctKeys entries)
    (selfSame : name.same name = true) :
    StandsUnder entries name item ↔ (name, item) ∈ entries := by
  constructor
  · rintro ⟨front, back, rfl, _⟩
    simp
  · intro mem
    rcases List.append_of_mem mem with ⟨front, back, rfl⟩
    refine ⟨front, back, rfl, ?_⟩
    intro earlierMem
    rcases List.mem_map.mp earlierMem with ⟨earlier, frontMem, sameKey⟩
    have apart := (List.pairwise_append.mp distinct).2.2 earlier frontMem _ List.mem_cons_self
    rw [sameKey, selfSame] at apart
    cases apart

/-- Where keys are different, a row has for a column what its entries for the column have. -/
theorem isItemOf_iff_mem (distinct : HaveDistinctKeys entries) :
    IsItemOf entries column item ↔
      ∃ name, (name, item) ∈ entries ∧ name.Names column ∧
        ¬IsPassedOver entries name column := by
  apply exists_congr
  intro name
  apply and_congr_left
  rintro ⟨names, _⟩
  exact standsUnder_iff_mem distinct names.same_self

end Entries

end Value

section RowItem

open Value

variable {entries : List (Value × Value)} {column : Identifier} {item : Value}

theorem exists_rowItem?_iff :
    (∃ item, rowItem? entries column = some item) ↔
      ∃ entry ∈ entries, entry.1.Names column := by
  have found (name : Value) :
      (∃ item, OrderedMap.findEntry name entries = some item) ↔
        ∃ entry ∈ entries, entry.1 = name := by
    rw [← Option.isSome_iff_exists, OrderedMap.findEntry_isSome_iff, List.mem_map]
  constructor
  · rintro ⟨item, itemFound⟩
    rcases Option.or_eq_some_iff.mp itemFound with byIdentifier | ⟨_, byText⟩
    · rcases (found _).mp ⟨item, byIdentifier⟩ with ⟨entry, mem, sameKey⟩
      exact ⟨entry, mem, Or.inl sameKey⟩
    · rcases (found _).mp ⟨item, byText⟩ with ⟨entry, mem, sameKey⟩
      exact ⟨entry, mem, Or.inr sameKey⟩
  · rintro ⟨entry, mem, byIdentifier | byText⟩
    · rcases (found _).mpr ⟨entry, mem, byIdentifier⟩ with ⟨item, itemFound⟩
      exact ⟨item, by simp [rowItem?, itemFound]⟩
    · rcases (found _).mpr ⟨entry, mem, byText⟩ with ⟨item, itemFound⟩
      rcases first : OrderedMap.findEntry (Value.identifier column) entries with _ | other
      · exact ⟨item, by simp [rowItem?, first, itemFound]⟩
      · exact ⟨other, by simp [rowItem?, first]⟩

/-- Looking a column up finds what the row has for it. -/
theorem rowItem?_eq_some_iff :
    rowItem? entries column = some item ↔ IsItemOf entries column item := by
  have standsUnder (name : Value) :
      OrderedMap.findEntry name entries = some item ↔ StandsUnder entries name item :=
    OrderedMap.findEntry_eq_some_iff
  have absentIff : OrderedMap.findEntry (Value.identifier column) entries = none ↔
      Value.identifier column ∉ entries.map Prod.fst := by
    rw [← Option.not_isSome_iff_eq_none, OrderedMap.findEntry_isSome_iff]
  rw [rowItem?, Option.or_eq_some_iff, standsUnder, standsUnder, absentIff]
  constructor
  · rintro (stands | ⟨absent, stands⟩)
    · refine ⟨_, stands, Or.inl rfl, ?_⟩
      rintro ⟨⟨⟩, _⟩
    · refine ⟨_, stands, Or.inr rfl, ?_⟩
      rintro ⟨_, present⟩
      exact absent present
  · rintro ⟨name, stands, rfl | rfl, counts⟩
    · exact Or.inl stands
    · right
      refine ⟨?_, stands⟩
      intro present
      exact counts ⟨rfl, present⟩

end RowItem

end EntityCatalog
