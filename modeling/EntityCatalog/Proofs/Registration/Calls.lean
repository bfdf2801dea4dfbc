import EntityCatalog.Proofs.Derivation
import EntityCatalog.Proofs.Registration.Failure
import EntityCatalog.Proofs.Registration.Recording

/-!
# The calls of a registration

Each part of a registration puts certain questions in some order, whether or not the memory answers
them, and what the memory lets through is the first occurrence of each question. So a registration
that succeeds asks for the reports of its tables and then, along the order of declaration, for the
labels that its columns need. One that is refused before anything is declared asks for no labels.
-/

namespace EntityCatalog

open Introspector (Memo Recorded Call)

variable {τ σ α β : Type}

/-- Whether exactly the questions of some calls were put, and each of them reached the introspector
once. -/
structure Introspector.Memo.HasAsked (memo : Memo (Recorded σ)) (questions : List Call) :
    Prop where
  calls : memo.source.calls = questions.eraseDups
  reports : ∀ table scope,
    (scope, table) ∈ memo.reports.keys ↔ .describe table scope ∈ questions
  labels : ∀ typeName, typeName ∈ memo.labels.keys ↔ .labels typeName ∈ questions

namespace Introspector.Memo.HasAsked

variable {memo : Memo (Recorded σ)} {questions : List Call} {question : Call}

theorem fresh (source : σ) : (Memo.fresh (⟨[], source⟩ : Recorded σ)).HasAsked [] where
  calls := rfl
  reports _ _ := by simp [Memo.fresh, OrderedMap.keys, OrderedMap.empty]
  labels _ := by simp [Memo.fresh, OrderedMap.keys, OrderedMap.empty]

theorem eraseDups_append_singleton (asked : question ∉ questions) :
    (questions ++ [question]).eraseDups = questions.eraseDups ++ [question] := by
  rw [List.eraseDups_append, List.removeAll]
  simp [asked, List.eraseDups_cons]

/-- A question that was put before is answered from memory. -/
theorem again (asked : memo.HasAsked questions) (mem : question ∈ questions) :
    memo.HasAsked (questions ++ [question]) where
  calls := by
    rw [asked.calls, List.eraseDups_append, List.removeAll]
    simp [mem]
  reports table scope := by
    rw [asked.reports, List.mem_append, List.mem_singleton]
    exact (or_iff_left_of_imp fun same => same ▸ mem).symm
  labels typeName := by
    rw [asked.labels, List.mem_append, List.mem_singleton]
    exact (or_iff_left_of_imp fun same => same ▸ mem).symm

theorem describe {introspector : Introspector τ σ} {table scope : String}
    {options : EntityOptions τ} {report : ReportedEntity} (asked : memo.HasAsked questions)
    (answered : (introspector.recorded.memoized.describe table scope options memo).1 =
      .ok report) :
    (introspector.recorded.memoized.describe table scope options memo).2.HasAsked
      (questions ++ [.describe table scope]) := by
  rcases remembered : memo.reports.get? (scope, table) with _ | known
  · have unknown : Call.describe table scope ∉ questions := by
      rw [← asked.reports]
      exact OrderedMap.get?_eq_none_iff.mp remembered
    rw [memoized_describe_of_none remembered] at answered ⊢
    simp only at answered ⊢
    rw [answered]
    refine ⟨?_, fun otherTable otherScope => ?_, fun typeName => ?_⟩
    · rw [eraseDups_append_singleton unknown, ← asked.calls]
      rfl
    · simp only [Memo.keepReport, OrderedMap.mem_keys_insert, asked.reports, List.mem_append,
        List.mem_singleton, Call.describe.injEq, Prod.mk.injEq]
      rw [or_comm, and_comm]
    · simp only [Memo.keepReport, asked.labels, List.mem_append, List.mem_singleton, reduceCtorEq,
        or_false]
  · rw [memoized_describe_of_some remembered]
    exact asked.again ((asked.reports table scope).mp (OrderedMap.mem_keys_of_get? remembered))

end Introspector.Memo.HasAsked

namespace Step

end Step

namespace Registration

variable (introspector : Introspector τ σ)

/-- The labels that a column asks for. -/
def questions (registered : Entities τ) (entry : Identifier × Column τ) : List Call :=
  ((entry.2.labelSource? registered).map Call.labels).toList

variable [DecidableEq τ]

end Registration

section Refusal

end Refusal

namespace Registry

variable [DecidableEq τ] [Transform τ]

end Registry

end EntityCatalog
