import EntityCatalog.Json
import EntityCatalog.Text.Clipped
import EntityCatalog.Value.Literal

/-!
# Documents of values

A document shows collections and mappings by their parts, and what it cannot hold by its plain
text. The keys of mappings have to be texts or scalars that a document can hold.
-/

namespace EntityCatalog

/-- A mapping has a key of a type that a document cannot show. -/
structure KeyFault where
  typeName : String
deriving DecidableEq, Repr

/-- The wording of a fault. -/
def KeyFault.message (fault : KeyFault) : String :=
  "keys must be str, int, float, bool or None, not " ++ Text.clipped 100 fault.typeName

namespace Value

/-- The name of a key in a document. -/
def memberName : Value → Except KeyFault String
  | .scalar (.text content) => .ok content
  | .scalar (.integer number) => .ok (toString number)
  | .scalar (.float number) => .ok (Json.writeFloat number)
  | .scalar (.boolean truth) => .ok (if truth then "true" else "false")
  | .scalar .null => .ok "null"
  | key => .error ⟨key.typeName⟩

mutual

/-- The document of a value. -/
def document : Value → Except KeyFault Json
  | .scalar .null => .ok .null
  | .scalar (.boolean truth) => .ok (.boolean truth)
  | .scalar (.integer number) => .ok (.integer number)
  | .scalar (.float number) => .ok (.float number)
  | .list items => (documents items).map .array
  | .tuple items => (documents items).map .array
  | .mapping entries => (members entries).map .object
  | other => .ok (.text other.plainText)

/-- The documents of several values. -/
def documents : List Value → Except KeyFault (List Json)
  | [] => .ok []
  | item :: rest => do
      let first ← item.document
      let others ← documents rest
      pure (first :: others)

/-- The members of the document of a mapping. -/
def members : List (Value × Value) → Except KeyFault (List (String × Json))
  | [] => .ok []
  | (key, value) :: rest => do
      let name ← key.memberName
      let first ← value.document
      let others ← members rest
      pure ((name, first) :: others)

end

end Value

end EntityCatalog
