/-!
# Order of texts

Texts are ordered by code point.
-/

namespace EntityCatalog.Text

/-- Texts in increasing order. -/
def sorted (texts : List String) : List String :=
  texts.mergeSort fun left right => decide (left ≤ right)

/-- Sorting keeps every text as often as it occurs. -/
theorem sorted_perm (texts : List String) : (sorted texts).Perm texts :=
  List.mergeSort_perm texts _

end EntityCatalog.Text
