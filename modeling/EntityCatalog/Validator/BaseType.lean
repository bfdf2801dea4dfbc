import EntityCatalog.Number.Word
import EntityCatalog.Value

/-!
# Base types

The base types of the database, as classes of values. A name of the database stands for at most
one class; several names stand for the same one.
-/

namespace EntityCatalog

/-- A class of values that base types of the database hold. -/
inductive BaseType where
  | boolean
  /-- Integers between two bounds, both included. -/
  | integer (least greatest : Int)
  /-- Integers and floating-point numbers. -/
  | floating
  /-- Integers, floating-point and decimal numbers. -/
  | numeric
  | text
  | uuid
  /-- Days, with or without a time. -/
  | date
  | time
  | timestamp
  | interval
  /-- Everything a JSON document can hold, except for the absent value. -/
  | document
  | octets
deriving DecidableEq, Repr

namespace BaseType

/-- The integers of a signed word of so many bits. -/
def signedWord (bits : Nat) : BaseType :=
  .integer (Number.leastWord bits) (Number.greatestWord bits)

/-- The names of the base types and the classes they stand for. -/
def named : List (String × BaseType) :=
  [("bool", .boolean), ("int2", signedWord 16), ("int4", signedWord 32), ("int8", signedWord 64),
    ("oid", .integer 0 (Nat.pow 2 32 - 1)), ("float4", .floating), ("float8", .floating),
    ("numeric", .numeric), ("text", .text), ("varchar", .text), ("bpchar", .text),
    ("char", .text), ("name", .text), ("citext", .text), ("uuid", .uuid), ("date", .date),
    ("time", .time), ("timetz", .time), ("timestamp", .timestamp), ("timestamptz", .timestamp),
    ("interval", .interval), ("json", .document), ("jsonb", .document), ("bytea", .octets)]

/-- The class that a name stands for. -/
def ofName? (name : String) : Option BaseType := named.lookup name

/-- Whether a value belongs to a class. -/
def accepts : BaseType → Value → Bool
  | .boolean, .scalar (.boolean _) => true
  | .integer least greatest, .scalar (.integer number) => least ≤ number && number ≤ greatest
  | .floating, .scalar (.integer _) => true
  | .floating, .scalar (.float _) => true
  | .numeric, .scalar (.integer _) => true
  | .numeric, .scalar (.float _) => true
  | .numeric, .scalar (.decimal _) => true
  | .text, .scalar (.text _) => true
  | .uuid, .scalar (.uuid _) => true
  | .date, .scalar (.date _) => true
  | .date, .scalar (.dateTime _) => true
  | .time, .scalar (.time _) => true
  | .timestamp, .scalar (.dateTime _) => true
  | .interval, .scalar (.duration _) => true
  | .document, .mapping _ => true
  | .document, .list _ => true
  | .document, .scalar (.text _) => true
  | .document, .scalar (.integer _) => true
  | .document, .scalar (.float _) => true
  | .document, .scalar (.boolean _) => true
  | .octets, .scalar (.octets ..) => true
  | _, _ => false

end BaseType

end EntityCatalog
