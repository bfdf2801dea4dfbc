/-!
# Classes of errors

Errors are told apart by their causes. A class says what sort of cause it is, for callers that
treat all errors of one sort alike, and a message says it in words.
-/

namespace EntityCatalog

/-- The sorts of causes of errors. -/
inductive ErrorClass where
  /-- A value of the right type that is not acceptable. -/
  | value
  /-- A value of a type that is not acceptable. -/
  | type
  /-- A text without an encoding where one is needed. -/
  | encoding
  /-- A number outside of the range that it is needed in. -/
  | range
  /-- A name that is not known. -/
  | name
  /-- An operation on numbers that has no result. -/
  | arithmetic
  /-- An operation on numbers whose result lies above all of them. -/
  | excess
  /-- A result that there is no room for. -/
  | memory
  /-- A structure that is nested too deeply. -/
  | depth
  /-- A request that the system underneath refuses. -/
  | system
deriving DecidableEq, Repr

/-- A type of causes of errors, each of which has a class and a wording. -/
class ErrorCause (ε : Type) where
  errorClass : ε → ErrorClass
  message : ε → String

end EntityCatalog
