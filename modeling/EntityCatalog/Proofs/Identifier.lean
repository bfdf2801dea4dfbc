import Mathlib.Logic.Function.Basic
import EntityCatalog.Identifier

/-!
# Identifiers and their written forms

An entity's identifier and that of its complete rows are different, and different entities have
different identifiers of complete rows. Of two identifiers either one is at most the other or it is
greater, so without repetitions they can be listed in strictly increasing order. What stands before
the first separator of a written form is the scope and what stands after it is the name, whatever
the name holds. So reading and writing undo each other, on all identifiers and on all texts that
have something before their first separator and something after it.
-/

namespace EntityCatalog.Identifier

theorem not_le_iff_lt {left right : Identifier} : ¬right ≤ left ↔ left < right := by
  rw [le_iff, lt_iff]
  by_cases same : left.scope = right.scope
  · simp [same]
  · have total : left.scope < right.scope ∨ right.scope < left.scope := by
      rcases String.le_total left.scope right.scope with le | le
      · exact Or.inl (Std.lt_of_le_of_ne le same)
      · exact Or.inr (Std.lt_of_le_of_ne le (Ne.symm same))
    have asymm : right.scope < left.scope → ¬left.scope < right.scope := String.lt_asymm
    have different : ¬right.scope = left.scope := fun eq => same eq.symm
    simp only [same, different, false_and, or_false]
    exact ⟨fun notLess => total.resolve_right notLess, fun less more => asymm more less⟩

theorem lt_of_le_of_ne {left right : Identifier} (le : left ≤ right) (ne : left ≠ right) :
    left < right :=
  not_le_iff_lt.mp fun ge => ne (le_antisymm le ge)

/-- Whether a list has exactly the identifiers with a property, in strictly increasing order. -/
def IsListing (identifiers : List Identifier) (listed : Identifier → Prop) : Prop :=
  identifiers.Pairwise (· < ·) ∧ ∀ identifier, identifier ∈ identifiers ↔ listed identifier

theorem sorted_perm (identifiers : List Identifier) : (sorted identifiers).Perm identifiers :=
  List.mergeSort_perm identifiers _

theorem pairwise_sorted (identifiers : List Identifier) :
    (sorted identifiers).Pairwise (· ≤ ·) := by
  have ordered : (sorted identifiers).Pairwise fun left right => decide (left ≤ right) :=
    List.pairwise_mergeSort (fun _ _ _ => by simpa using le_trans)
      (fun left right => by simpa using le_total left right) identifiers
  simpa using ordered

theorem isListing_sorted {identifiers : List Identifier} (nodup : identifiers.Nodup) :
    IsListing (sorted identifiers) (· ∈ identifiers) := by
  have distinct : (sorted identifiers).Nodup := (sorted_perm identifiers).nodup_iff.mpr nodup
  have increasing : (sorted identifiers).Pairwise (· < ·) :=
    ((pairwise_sorted identifiers).and distinct).imp fun both => lt_of_le_of_ne both.1 both.2
  exact ⟨increasing, fun _ => (sorted_perm identifiers).mem_iff⟩

theorem toList_text (identifier : Identifier) :
    identifier.text.toList =
      identifier.scope.toList ++ identifierSeparator :: identifier.name.toList := by
  simp [text]

theorem bne_separator_of_mem_scope (identifier : Identifier) :
    ∀ character ∈ identifier.scope.toList, (character != identifierSeparator) = true := by
  intro character mem
  rw [bne_iff_ne]
  rintro rfl
  exact identifier.separator_not_mem_scope mem

theorem takeWhile_text (identifier : Identifier) :
    identifier.text.toList.takeWhile (· != identifierSeparator) = identifier.scope.toList := by
  rw [toList_text, List.takeWhile_append_of_pos identifier.bne_separator_of_mem_scope]
  simp

theorem dropWhile_text (identifier : Identifier) :
    identifier.text.toList.dropWhile (· != identifierSeparator) =
      identifierSeparator :: identifier.name.toList := by
  rw [toList_text, List.dropWhile_append_of_pos identifier.bne_separator_of_mem_scope]
  simp

theorem insertIdentifier_injective {left right : Identifier}
    (same : left.insertIdentifier = right.insertIdentifier) : left = right := by
  have scopes : left.insertIdentifier.scope = right.insertIdentifier.scope := by rw [same]
  have names : left.insertIdentifier.name = right.insertIdentifier.name := by rw [same]
  exact eq_of_parts scopes ((String.append_left_inj insertEnding).mp names)

theorem insertIdentifier_ne_self (identifier : Identifier) :
    identifier.insertIdentifier ≠ identifier := by
  intro same
  have names : identifier.insertIdentifier.name = identifier.name := by rw [same]
  have lengths : (identifier.name ++ insertEnding).length = identifier.name.length :=
    congrArg String.length names
  rw [String.length_append] at lengths
  have endingLength : insertEnding.length = 7 := by decide
  omega

section Reading

variable {scope name text : String} {identifier : Identifier}

theorem ofParts_eq_ok_iff :
    ofParts scope name = .ok identifier ↔ identifier.scope = scope ∧ identifier.name = name := by
  constructor
  · intro made
    unfold ofParts at made
    split at made
    · split at made
      · split at made
        · cases made
          exact ⟨rfl, rfl⟩
        · cases made
      · cases made
    · cases made
  · rintro ⟨rfl, rfl⟩
    exact ofParts_parts identifier

/-- Reading the written form of an identifier gives the identifier. -/
theorem parse_text (identifier : Identifier) : parse identifier.text = .ok identifier := by
  simp [parse, takeWhile_text, dropWhile_text]

theorem text_injective {left right : Identifier} (same : left.text = right.text) :
    left = right := by
  have read := parse_text left
  rw [same, parse_text, Except.ok.injEq] at read
  exact read.symm

/-- What is read from a text has that text as its written form. -/
theorem text_of_parse (read : parse text = .ok identifier) : identifier.text = text := by
  unfold parse at read
  split at read
  · cases read
  · next first rest split =>
    have separator : first = identifierSeparator := by
      have head := List.head?_dropWhile_not (· != identifierSeparator) text.toList
      rw [split] at head
      simpa using head
    rcases ofParts_eq_ok_iff.mp read with ⟨scopeEq, nameEq⟩
    rw [← String.toList_inj]
    calc
      identifier.text.toList =
          text.toList.takeWhile (· != identifierSeparator) ++ identifierSeparator :: rest := by
        rw [toList_text, scopeEq, nameEq, String.toList_ofList, String.toList_ofList]
      _ = text.toList := by
        rw [← separator, ← split, separator, List.takeWhile_append_dropWhile]

end Reading

/-- Whether a text has a separator, with something before its first one and something after it. -/
def IsWrittenForm (text : String) : Prop :=
  ∃ before after : String, text = before ++ String.singleton identifierSeparator ++ after ∧
    identifierSeparator ∉ before.toList ∧ before ≠ "" ∧ after ≠ ""

theorem isWrittenForm_iff {text : String} :
    IsWrittenForm text ↔ ∃ identifier : Identifier, identifier.text = text := by
  constructor
  · rintro ⟨before, after, rfl, noSeparator, before_ne_empty, after_ne_empty⟩
    exact ⟨⟨before, after, before_ne_empty, after_ne_empty, noSeparator⟩, rfl⟩
  · rintro ⟨identifier, rfl⟩
    exact ⟨identifier.scope, identifier.name, rfl, identifier.separator_not_mem_scope,
      identifier.scope_ne_empty, identifier.name_ne_empty⟩

/--
A text is read exactly if it has a separator with something before the first one and something after
it. Reading the written form of an identifier gives the identifier, and writing what is read from a
text gives the text, so different identifiers have different written forms; they have different
identifiers of complete rows too.
-/
theorem parse_inverse_text :
    (∀ text, (∃ identifier, parse text = .ok identifier) ↔ IsWrittenForm text) ∧
      (∀ identifier : Identifier, parse identifier.text = .ok identifier) ∧
      (∀ text identifier, parse text = .ok identifier → identifier.text = text) ∧
      Function.Injective text ∧ Function.Injective insertIdentifier := by
  refine ⟨?_, parse_text, fun _ _ => text_of_parse, fun _ _ => text_injective,
    fun _ _ => insertIdentifier_injective⟩
  intro written
  rw [isWrittenForm_iff]
  constructor
  · rintro ⟨identifier, read⟩
    exact ⟨identifier, text_of_parse read⟩
  · rintro ⟨identifier, rfl⟩
    exact ⟨identifier, parse_text identifier⟩

example : (parse "shop/a/b").toOption.map (fun read => (read.scope, read.name)) =
    some ("shop", "a/b") := by decide +kernel

end EntityCatalog.Identifier

namespace EntityCatalog.Sample

theorem app_ne_empty : "app" ≠ "" := by decide

theorem separator_not_mem_app : identifierSeparator ∉ "app".toList := by decide

/-- An identifier in the scope `app`. -/
def inApp (name : String) (name_ne_empty : name ≠ "") : Identifier :=
  ⟨"app", name, app_ne_empty, name_ne_empty, separator_not_mem_app⟩

end EntityCatalog.Sample
