import EntityCatalog.Number.Shortest
import EntityCatalog.Value

/-!
# Literal and plain texts of values

Every value has a literal text, which shows its type and quotes its parts, and a plain text, which
drops the quotes of the outermost value. A collection shows the literal texts of its parts in
order, and a tuple of one part keeps a comma to be told from a part in parentheses.
-/

namespace EntityCatalog

/-- Texts with a comma and a blank between them. -/
def commaSeparated (texts : List String) : String := ", ".intercalate texts

/-- A name followed by arguments in parentheses. -/
def callText (name : String) (arguments : List String) : String :=
  name ++ "(" ++ commaSeparated arguments ++ ")"

/-- The parts of a duration that are not zero; one zero for the empty duration. -/
def Duration.literal (duration : Duration) : String :=
  let part (name : String) (count : Int) : List String :=
    if count = 0 then [] else [name ++ "=" ++ toString count]
  let parts := part "days" duration.days ++ part "seconds" duration.seconds ++
    part "microseconds" duration.subseconds
  callText "datetime.timedelta" (if parts.isEmpty then ["0"] else parts)

/-- The arguments that show a date. -/
def Date.arguments (date : Date) : List String :=
  [toString date.year, toString date.month, toString date.day]

/-- The literal text of an offset from universal time. -/
def TimeOfDay.offsetLiteral (minutes : Int) : String :=
  if minutes = 0 then "datetime.timezone.utc"
  else callText "datetime.timezone" [(Duration.ofUnits 0 (60 * minutes) 0).literal]

/-- The arguments that show a time: the seconds and microseconds only as far as they are needed. -/
def TimeOfDay.arguments (time : TimeOfDay) : List String :=
  let fine :=
    if time.microsecond ≠ 0 then [toString time.second, toString time.microsecond]
    else if time.second ≠ 0 then [toString time.second]
    else []
  let zone := match time.offset with
    | none => []
    | some minutes => ["tzinfo=" ++ offsetLiteral minutes]
  [toString time.hour, toString time.minute] ++ fine ++ zone

/-- The literal text of octets in one of their forms. -/
def OctetForm.literal (content : List UInt8) : OctetForm → String
  | .fixed => Text.quotedOctets .markInUse content
  | .growable => callText "bytearray" [Text.quotedOctets .everyApostrophe content]
  | .window => "<memory>"

namespace Scalar

/-- The literal text of a truth value. -/
def booleanLiteral (truth : Bool) : String := if truth then "True" else "False"

/-- The literal text of a scalar. -/
def literal : Scalar → String
  | .null => "None"
  | .boolean truth => booleanLiteral truth
  | .integer number => toString number
  | .float number => Number.floatText number
  | .decimal number => callText "Decimal" [Text.quoted number.text]
  | .text content => Text.quoted content
  | .identifier content => content.literal
  | .uuid content => callText "UUID" [Text.quoted content]
  | .octets form content => form.literal content
  | .date content => callText "datetime.date" content.arguments
  | .time content => callText "datetime.time" content.arguments
  | .dateTime content =>
      callText "datetime.datetime" (content.date.arguments ++ content.time.arguments)
  | .duration content => content.literal
  | .token content => content.literal

/-- The plain text of a scalar. -/
def plainText : Scalar → String
  | .decimal number => number.text
  | .text content => content
  | .identifier content => content.text
  | .uuid content => content
  | .date content => content.text
  | .time content => content.text
  | .dateTime content => content.text
  | .duration content => content.text
  | other => other.literal

/-- The name of the type of a scalar, with the module of those that belong to one. -/
def typeName : Scalar → String
  | .null => "NoneType"
  | .boolean _ => "bool"
  | .integer _ => "int"
  | .float _ => "float"
  | .decimal _ => "decimal.Decimal"
  | .text _ => "str"
  | .identifier _ => "Identifier"
  | .uuid _ => "UUID"
  | .octets .fixed _ => "bytes"
  | .octets .growable _ => "bytearray"
  | .octets .window _ => "memoryview"
  | .date _ => "datetime.date"
  | .time _ => "datetime.time"
  | .dateTime _ => "datetime.datetime"
  | .duration _ => "datetime.timedelta"
  | .token content => content.typeName

end Scalar

namespace Value

/-- A tuple shown by the texts of its parts. -/
def tupleLiteral : List String → String
  | [part] => "(" ++ part ++ ",)"
  | parts => "(" ++ commaSeparated parts ++ ")"

/-- The plain text of a member: the enumeration and the member, joined by a dot. -/
def memberText (enumeration : EnumerationName) (name : String) : String :=
  enumeration.short ++ "." ++ name

mutual

/-- The literal text of a value. -/
def literal : Value → String
  | .scalar content => content.literal
  | .list items => "[" ++ commaSeparated (literals items) ++ "]"
  | .tuple items => tupleLiteral (literals items)
  | .mapping entries => "\x7b" ++ commaSeparated (entryLiterals entries) ++ "\x7d"
  | .member enumeration name stored =>
      "<" ++ memberText enumeration name ++ ": " ++ stored.literal ++ ">"
  | .record typeName fields => callText typeName (fieldLiterals fields)

/-- The literal texts of several values. -/
def literals : List Value → List String
  | [] => []
  | item :: rest => item.literal :: literals rest

/-- The literal texts of entries: a key, a colon and a value. -/
def entryLiterals : List (Value × Value) → List String
  | [] => []
  | (key, value) :: rest => (key.literal ++ ": " ++ value.literal) :: entryLiterals rest

/-- The literal texts of fields: a name, an equals sign and a value. -/
def fieldLiterals : List (String × Value) → List String
  | [] => []
  | (name, value) :: rest => (name ++ "=" ++ value.literal) :: fieldLiterals rest

end

/-- The plain text of a value; that of a record shows its fields only. -/
def plainText : Value → String
  | .scalar content => content.plainText
  | .member enumeration name _ => memberText enumeration name
  | .record _ fields => " ".intercalate (fieldLiterals fields)
  | other => other.literal

/-- The name of the type of a value. -/
def typeName : Value → String
  | .scalar content => content.typeName
  | .list _ => "list"
  | .tuple _ => "tuple"
  | .mapping _ => "dict"
  | .member enumeration _ _ => enumeration.short
  | .record typeName _ => typeName

/-- The literal texts of a list are taken one by one. -/
theorem literals_eq_map (items : List Value) : literals items = items.map literal := by
  induction items with
  | nil => rfl
  | cons item rest ih => simp [literals, ih]

end Value

/-- The literal text of a list of texts. -/
def textListLiteral (texts : List String) : String :=
  "[" ++ commaSeparated (texts.map Text.quoted) ++ "]"

end EntityCatalog
