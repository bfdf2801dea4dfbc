import EntityCatalog.OrderedMap
import EntityCatalog.Value.Quantity

/-!
# Profiles

A profile keeps the durations that were measured for each operation, in milliseconds. Its summary
gives, for each operation in increasing order, how many there are, their sum and the greatest of
them. Whole numbers are summed exactly until the first number of another type comes; from there on
the sum is of that type, and it is rounded to three decimals, halves to the even one. What is
recorded in the place of a duration may have no sum.
-/

namespace EntityCatalog

/-- The durations of one operation at a glance. -/
structure OperationSummary where
  count : Nat
  total : Quantity
  greatest : Quantity
deriving DecidableEq

/-- Measured durations by operation. -/
structure Profile where
  samples : OrderedMap String (List Quantity)

namespace Profile

/-- The profile without durations. -/
def empty : Profile := ⟨.empty⟩

/-- Adds a duration of an operation. -/
def record (profile : Profile) (operation : String) (duration : Quantity) : Profile :=
  let kept := (profile.samples.get? operation).getD []
  ⟨profile.samples.insert operation (kept ++ [duration])⟩

/-- The durations of an operation in the order in which they were recorded. -/
def results (profile : Profile) (operation : String) : List Quantity :=
  (profile.samples.get? operation).getD []

/-- The summary of some durations, if there are any. -/
def summarize? (durations : List Quantity) :
    Except QuantityFault (Option OperationSummary) := do
  let total ← (← Quantity.sum? durations).roundedTo? 3
  let greatest ← Quantity.greatest? durations
  pure (greatest.map fun greatest => { count := durations.length, total, greatest })

/-- The summaries of all operations in increasing order. -/
def summary (profile : Profile) : Except QuantityFault (List (String × OperationSummary)) := do
  let ordered := profile.samples.entries.mergeSort fun left right => decide (left.1 ≤ right.1)
  let summaries ← ordered.mapM fun entry => do
    let summary ← summarize? entry.2
    pure (summary.map fun summary => (entry.1, summary))
  pure (summaries.filterMap id)

/-- The summary has one duration more after recording one. -/
theorem length_results_record (profile : Profile) (operation : String)
    (duration : Quantity) :
    ((profile.record operation duration).results operation).length =
      (profile.results operation).length + 1 := by
  simp [results, record]

end Profile

end EntityCatalog
