import EntityCatalog.ErrorClass
import EntityCatalog.Text.Quoted

/-!
# Identifiers

Entities and columns are named by a scope and a name inside the scope. The written form joins the
two with the separator; a scope holds no separator, so the first separator of a written form is
where it splits. Identifiers are ordered by scope, then by name, both by code point.
-/

namespace EntityCatalog

/-- The character between the scope and the name of a written identifier. -/
def identifierSeparator : Char := '/'

/-- A name inside a scope. -/
structure Identifier where
  /-- The scope, which has at least one character and no separator. -/
  scope : String
  /-- The name inside the scope, which has at least one character. -/
  name : String
  scope_ne_empty : scope ≠ ""
  name_ne_empty : name ≠ ""
  separator_not_mem_scope : identifierSeparator ∉ scope.toList
deriving DecidableEq, Repr

/-- Why two texts, or one written form, make no identifier. -/
inductive IdentifierError where
  /-- A written form has no separator. -/
  | missingScope (text : String)
  /-- The scope or the name is empty. -/
  | emptyPart (scope name : String)
  /-- The scope holds a separator. -/
  | separatorInScope (scope : String)
deriving DecidableEq, Repr

/-- The wording of an identifier error. -/
def IdentifierError.message : IdentifierError → String
  | .missingScope text =>
      "Identifier " ++ Text.quoted text ++ " is missing a scope (expected 'scope/name')"
  | .emptyPart scope name =>
      "Identifier requires a scope and a name, got " ++ Text.quoted scope ++ "/" ++
        Text.quoted name
  | .separatorInScope scope =>
      "Identifier scope may not contain '/': " ++ Text.quoted scope

instance : ErrorCause IdentifierError := ⟨fun _ => .value, IdentifierError.message⟩

namespace Identifier

/-- The identifier of a scope and a name, if they make one. -/
def ofParts (scope name : String) : Except IdentifierError Identifier :=
  if scope_ne_empty : scope ≠ "" then
    if name_ne_empty : name ≠ "" then
      if separator_not_mem_scope : identifierSeparator ∉ scope.toList then
        .ok { scope, name, scope_ne_empty, name_ne_empty, separator_not_mem_scope }
      else .error (.separatorInScope scope)
    else .error (.emptyPart scope name)
  else .error (.emptyPart scope name)

/-- Reads a written form, which splits at its first separator. -/
def parse (text : String) : Except IdentifierError Identifier :=
  match text.toList.dropWhile (· != identifierSeparator) with
  | [] => .error (.missingScope text)
  | _ :: name =>
      ofParts (String.ofList (text.toList.takeWhile (· != identifierSeparator)))
        (String.ofList name)

/-- The written form: the scope, the separator and the name. -/
def text (identifier : Identifier) : String :=
  identifier.scope ++ String.singleton identifierSeparator ++ identifier.name

instance : ToString Identifier := ⟨text⟩

/-- The identifier of another name in the same scope. -/
def sibling (identifier : Identifier) (name : String) (name_ne_empty : name ≠ "") : Identifier :=
  { identifier with name, name_ne_empty }

/-- The identifier of another name in the same scope, if the name is not empty. -/
def child (identifier : Identifier) (name : String) : Except IdentifierError Identifier :=
  ofParts identifier.scope name

/-- The ending that marks the declaration of complete rows. -/
def insertEnding : String := "-insert"

/-- The identifier of the declaration of complete rows of an entity. -/
def insertIdentifier (identifier : Identifier) : Identifier :=
  identifier.sibling (identifier.name ++ insertEnding) (by
    simp [String.append_eq_empty_iff, insertEnding])

/-- The literal form, which shows both parts. -/
def literal (identifier : Identifier) : String :=
  "Identifier(scope=" ++ Text.quoted identifier.scope ++ ", name=" ++
    Text.quoted identifier.name ++ ")"

/-- By scope, then by name. -/
instance : LT Identifier where
  lt left right :=
    left.scope < right.scope ∨ left.scope = right.scope ∧ left.name < right.name

/-- By scope, then by name. -/
instance : LE Identifier where
  le left right :=
    left.scope < right.scope ∨ left.scope = right.scope ∧ left.name ≤ right.name

instance (left right : Identifier) : Decidable (left < right) :=
  inferInstanceAs
    (Decidable (left.scope < right.scope ∨ left.scope = right.scope ∧ left.name < right.name))

instance (left right : Identifier) : Decidable (left ≤ right) :=
  inferInstanceAs
    (Decidable (left.scope < right.scope ∨ left.scope = right.scope ∧ left.name ≤ right.name))

/-- The lesser of two identifiers. -/
instance : Min Identifier := minOfLe

/-- Identifiers in increasing order. -/
def sorted (identifiers : List Identifier) : List Identifier :=
  identifiers.mergeSort fun left right => decide (left ≤ right)

/-- Two identifiers are equal once their scopes and names are. -/
theorem eq_of_parts {left right : Identifier} (scope_eq : left.scope = right.scope)
    (name_eq : left.name = right.name) : left = right := by
  cases left
  cases right
  simp_all

/-- The parts of an identifier make that identifier. -/
@[simp]
theorem ofParts_parts (identifier : Identifier) :
    ofParts identifier.scope identifier.name = .ok identifier := by
  simp [ofParts, identifier.scope_ne_empty, identifier.name_ne_empty,
    identifier.separator_not_mem_scope]

/-- The comparison, part by part. -/
theorem le_iff {left right : Identifier} :
    left ≤ right ↔
      left.scope < right.scope ∨ left.scope = right.scope ∧ left.name ≤ right.name :=
  Iff.rfl

/-- The strict comparison, part by part. -/
theorem lt_iff {left right : Identifier} :
    left < right ↔
      left.scope < right.scope ∨ left.scope = right.scope ∧ left.name < right.name :=
  Iff.rfl

theorem le_refl (identifier : Identifier) : identifier ≤ identifier :=
  .inr ⟨rfl, String.le_refl _⟩

theorem le_trans {first second third : Identifier} (first_le : first ≤ second)
    (second_le : second ≤ third) : first ≤ third := by
  rcases first_le with scope_lt | ⟨scope_eq, name_le⟩
  · rcases second_le with scope_lt' | ⟨scope_eq', _⟩
    · exact .inl (String.lt_trans scope_lt scope_lt')
    · exact .inl (scope_eq' ▸ scope_lt)
  · rcases second_le with scope_lt' | ⟨scope_eq', name_le'⟩
    · exact .inl (scope_eq ▸ scope_lt')
    · exact .inr ⟨scope_eq.trans scope_eq', String.le_trans name_le name_le'⟩

theorem le_antisymm {left right : Identifier} (left_le : left ≤ right)
    (right_le : right ≤ left) : left = right := by
  rcases left_le with scope_lt | ⟨scope_eq, name_le⟩
  · rcases right_le with scope_lt' | ⟨scope_eq', _⟩
    · exact absurd scope_lt' (String.lt_asymm scope_lt)
    · exact absurd scope_lt (scope_eq' ▸ String.lt_irrefl _)
  · rcases right_le with scope_lt' | ⟨_, name_le'⟩
    · exact absurd scope_lt' (scope_eq ▸ String.lt_irrefl _)
    · exact eq_of_parts scope_eq (String.le_antisymm name_le name_le')

theorem le_total (left right : Identifier) : left ≤ right ∨ right ≤ left := by
  by_cases scope_eq : left.scope = right.scope
  · rcases String.le_total left.name right.name with name_le | name_le
    · exact .inl (.inr ⟨scope_eq, name_le⟩)
    · exact .inr (.inr ⟨scope_eq.symm, name_le⟩)
  · rcases String.le_total left.scope right.scope with scope_le | scope_le
    · exact .inl (.inl (Std.lt_of_le_of_ne scope_le scope_eq))
    · exact .inr (.inl (Std.lt_of_le_of_ne scope_le (Ne.symm scope_eq)))

instance : Std.IsLinearOrder Identifier where
  le_refl := le_refl
  le_trans _ _ _ := le_trans
  le_antisymm _ _ := le_antisymm
  le_total := le_total

instance : Std.LawfulOrderMin Identifier where
  min_eq_or left right := by
    simp only [min]
    split <;> simp
  le_min_iff lower left right := by
    simp only [min]
    split
    · next left_le => exact ⟨fun le => ⟨le, le_trans le left_le⟩, And.left⟩
    · next not_le =>
      have right_le := (le_total left right).resolve_left not_le
      exact ⟨fun le => ⟨le_trans le right_le, le⟩, And.right⟩

end Identifier

end EntityCatalog
