import EntityCatalog.ErrorClass
import EntityCatalog.Text.Clipped
import EntityCatalog.Value.Literal

/-!
# Items of values

Collections, mappings, records, texts and octets can be gone through item by item; all other values
are refused where items are needed. A text is looked for among the items of a value, except that a
part of a text may be longer than one character, and that octets are searched for octets only.
-/

namespace EntityCatalog

/-- A value of a type without items stands where some are needed. -/
structure ItemsFault where
  typeName : String
deriving DecidableEq, Repr

/-- The wording of a fault. -/
def ItemsFault.message (fault : ItemsFault) : String :=
  Text.clippedName 200 fault.typeName ++ " object is not iterable"

instance : ErrorCause ItemsFault := ⟨fun _ => .type, ItemsFault.message⟩

/-- A text is looked for in a value of a type that cannot hold any. -/
inductive SearchFault where
  /-- Values of a type have no items. -/
  | unsearchable (typeName : String)
  /-- Octets hold octets only. -/
  | octets
deriving DecidableEq, Repr

/-- The wording of a fault. -/
def SearchFault.message : SearchFault → String
  | .unsearchable typeName =>
      "argument of type " ++ Text.clippedName 200 typeName ++ " is not iterable"
  | .octets => "a bytes-like object is required, not 'str'"

instance : ErrorCause SearchFault := ⟨fun _ => .type, SearchFault.message⟩

namespace Value

/--
The items of a value: those of a collection, the keys of a mapping, the names and values of a
record, the characters of a text and the numbers of octets.
-/
def items? : Value → Except ItemsFault (List Value)
  | .list items | .tuple items => .ok items
  | .mapping entries => .ok (entries.map Prod.fst)
  | .record _ fields => .ok (fields.map fun field => .tuple [text field.1, field.2])
  | .scalar (.text content) =>
      .ok ((Text.codePoints content.toList).map fun code => text (Text.ofCodePoints [code]))
  | .scalar (.octets _ content) => .ok (content.map fun octet => integer octet.toNat)
  | value => .error ⟨value.typeName⟩

/-- Whether code points stand together, in their order, among others. -/
def standTogether (part : List Nat) : List Nat → Bool
  | [] => part.isEmpty
  | code :: rest => part.isPrefixOf (code :: rest) || standTogether part rest

/-- Code points stand together exactly if they are a part of the others. -/
theorem standTogether_iff (part codes : List Nat) :
    standTogether part codes = true ↔ part <:+: codes := by
  induction codes with
  | nil => simp [standTogether]
  | cons code rest ih =>
    rw [standTogether, Bool.or_eq_true, ih, List.isPrefixOf_iff_prefix, List.infix_cons_iff]

/-- Whether a value holds a text, as an item or as a part of its own text. -/
def holdsText? (value : Value) (content : String) : Except SearchFault Bool :=
  match value with
  | .scalar (.text whole) =>
      .ok (standTogether (Text.codePoints content.toList) (Text.codePoints whole.toList))
  | .scalar (.octets .fixed _) | .scalar (.octets .growable _) => .error .octets
  | _ => match value.items? with
    | .ok items => .ok (items.contains (text content))
    | .error fault => .error (.unsearchable fault.typeName)

/-- Among texts, those are held that are listed. -/
theorem holdsText?_texts (contents : List String) (content : String) :
    (list (contents.map text)).holdsText? content = .ok (contents.contains content) := by
  induction contents with
  | nil => rfl
  | cons first rest ih => simp_all [holdsText?, items?]

end Value

end EntityCatalog
