import EntityCatalog.Number.Shortest
import EntityCatalog.Text.Point

/-!
# JSON documents

A document is a tree of scalars, arrays and objects whose members keep their order. Documents are
written on one line, with a blank after each comma and colon; characters outside ASCII stand for
themselves, and control characters are escaped. Numbers that JSON has no text for are written by
the words `NaN`, `Infinity` and `-Infinity`.
-/

namespace EntityCatalog

/-- A document. -/
inductive Json where
  | null
  | boolean (truth : Bool)
  | integer (number : Int)
  | float (number : Float)
  | text (content : String)
  | array (items : List Json)
  | object (members : List (String × Json))

namespace Json

instance : Inhabited Json := ⟨null⟩

/-- A code unit of 16 bits by its number. -/
def escapedUnit (unit : Nat) : List Char :=
  let digits := Nat.toDigits 16 unit
  '\x5c' :: 'u' :: List.replicate (4 - digits.length) '0' ++ digits

/-- One character of a written text. -/
def escapedCharacter (character : Char) : List Char :=
  if character = '\x22' then ['\x5c', '\x22']
  else if character = '\x5c' then ['\x5c', '\x5c']
  else if character = '\n' then ['\x5c', 'n']
  else if character = '\r' then ['\x5c', 'r']
  else if character = '\t' then ['\x5c', 't']
  else if character = '\x08' then ['\x5c', 'b']
  else if character = '\x0c' then ['\x5c', 'f']
  else if character.toNat < 0x20 then escapedUnit character.toNat
  else [character]

/-- A text between quotation marks. -/
def writeText (content : String) : String :=
  String.ofList ('\x22' :: content.toList.flatMap escapedCharacter ++ ['\x22'])

/-- A floating-point number, or the word for one that is not finite. -/
def writeFloat (number : Float) : String :=
  match Number.parts number with
  | .notANumber => "NaN"
  | .infinite negative => if negative then "-Infinity" else "Infinity"
  | .finite .. => Number.floatText number

mutual

/-- The text of a document. -/
def write : Json → String
  | .null => "null"
  | .boolean truth => if truth then "true" else "false"
  | .integer number => toString number
  | .float number => writeFloat number
  | .text content => writeText content
  | .array items => "[" ++ ", ".intercalate (writeItems items) ++ "]"
  | .object members => "\x7b" ++ ", ".intercalate (writeMembers members) ++ "\x7d"

/-- The texts of the items of an array. -/
def writeItems : List Json → List String
  | [] => []
  | item :: rest => item.write :: writeItems rest

/-- The texts of the members of an object. -/
def writeMembers : List (String × Json) → List String
  | [] => []
  | (name, value) :: rest => (writeText name ++ ": " ++ value.write) :: writeMembers rest

end

/-- The characters of a written document, with surrogates escaped. -/
def encoded (written : String) : String :=
  String.ofList ((Text.codePoints written.toList).flatMap fun code =>
    if Text.isSurrogate code then escapedUnit code else [Char.ofNat code])

end Json

end EntityCatalog
