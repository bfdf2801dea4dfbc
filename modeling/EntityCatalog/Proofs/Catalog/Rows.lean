import EntityCatalog.Proofs.Catalog.Satisfaction
import EntityCatalog.Proofs.Registration.Success

/-!
# Rows

Evaluation goes through the columns that a validator lists and looks each one up, so that it comes
to every entry of a row that names one, except where the row has both names: the entry under the
identifier counts, and the one under the written form is passed over, whatever its value is. This
holds of a row on its own and of rows inside of others, as satisfaction of a validator does not
depend on where it is asked for.
-/

namespace EntityCatalog

variable {τ : Type}

namespace Catalog

open Value

variable [Transform τ] {catalog : Catalog τ} {required optional : List Identifier}
  {entries : List (Value × Value)}

/-- Whether each entry that names a listed column is fine, apart from those passed over. -/
def EachEntryFine (catalog : Catalog τ) (columns : List Identifier)
    (entries : List (Value × Value)) : Prop :=
  ∀ name item, (name, item) ∈ entries → ∀ column ∈ columns, name.Names column →
    ¬IsPassedOver entries name column → ∀ declaration, catalog.declared? column = some declaration →
      catalog.Satisfies declaration item

theorem satisfies_keys_iff (distinct : HaveDistinctKeys entries) :
    catalog.Satisfies (.keys required optional) (.mapping entries) ↔
      (∀ column ∈ required, ∃ entry ∈ entries, entry.1.Names column) ∧
        catalog.EachEntryFine (Validator.allKeys required optional) entries := by
  constructor
  · intro satisfies
    cases satisfies with
    | keys complete each =>
        refine ⟨complete, ?_⟩
        intro name item entryMem column mem names counts declaration declared
        have isItem : IsItemOf entries column item :=
          (isItemOf_iff_mem distinct).mpr ⟨name, entryMem, names, counts⟩
        exact each column mem item declaration isItem (declared?_eq_some_iff.mp declared)
  · rintro ⟨complete, each⟩
    apply Satisfies.keys complete
    intro column mem item declaration isItem declares
    rcases (isItemOf_iff_mem distinct).mp isItem with ⟨name, entryMem, names, counts⟩
    have declared := declared?_eq_some_iff.mpr declares
    exact each name item entryMem column mem names counts declaration declared

/--
A row is accepted exactly if it has every required column, by either of its names, and if each of
its entries that names a listed column and is not passed over satisfies the declaration of the
column; an entry that is passed over is not asked about.
-/
theorem explain_keys_eq_ok_nil_iff (distinct : HaveDistinctKeys entries) (path : String) :
    catalog.explain (.keys required optional) (.mapping entries) path = .ok [] ↔
      ((∀ column ∈ required, ∃ entry ∈ entries, entry.1.Names column) ∧
        catalog.EachEntryFine (Validator.allKeys required optional) entries) ∧
      catalog.explain (.keys required optional) (.mapping entries) path ≠ .error .tooDeep := by
  rw [explain_eq_ok_nil_iff, satisfies_keys_iff distinct]

end Catalog

namespace Sample

def coordinate : Identifier := inApp "x" (by decide)

/-- A column of integers. -/
def coordinates : Catalog Empty := .ofList [(coordinate, .base "int4")]

/-- A row with an integer under the identifier of its column and a text under its written form. -/
def pointNamedTwice : List (Value × Value) :=
  [(.identifier coordinate, .integer 1), (.text "app/x", .text "one")]

/-- A row is accepted although one of its entries that name a column does not satisfy it. -/
theorem explain_keys_of_pointNamedTwice :
    Value.HaveDistinctKeys pointNamedTwice ∧
      coordinates.explain (.keys [] [coordinate]) (.mapping pointNamedTwice) "value" = .ok [] ∧
      (Value.text "app/x", Value.text "one") ∈ pointNamedTwice ∧
      (Value.text "app/x").Names coordinate ∧
      coordinates.declared? coordinate = some (.base "int4") ∧
      ¬coordinates.Satisfies (.base "int4") (.text "one") := by
  have distinct : Value.HaveDistinctKeys pointNamedTwice :=
    Value.haveDistinctKeys_writtenEntries pointNamedTwice
  have declared : coordinates.declared? coordinate = some (.base "int4") := by decide +kernel
  have known : BaseType.ofName? "int4" = some (BaseType.signedWord 32) := by decide +kernel
  refine ⟨distinct, ?_, by decide +kernel, Or.inr (by decide +kernel), declared, ?_⟩
  · apply (Catalog.explain_keys_eq_ok_nil_iff distinct "value").mpr
    refine ⟨⟨by simp, ?_⟩, by decide +kernel⟩
    intro name item mem column columnMem names counts declaration found
    have listed : ∀ column ∈ Validator.allKeys [] [coordinate], column = coordinate := by
      decide +kernel
    rw [listed column columnMem, declared] at found
    cases found
    rw [listed column columnMem] at counts
    rcases List.mem_cons.mp mem with ⟨⟨⟩⟩ | shadowed
    · exact .base known (by decide +kernel)
    · rcases List.mem_singleton.mp shadowed with ⟨⟩
      exact absurd ⟨by decide +kernel, by decide +kernel⟩ counts
  · intro satisfies
    have accepted := (Catalog.satisfies_base_iff known).mp satisfies
    revert accepted
    decide +kernel

end Sample

end EntityCatalog
