import EntityCatalog.Validator

/-!
# Problems

A problem says at which place of a value it does not satisfy a validator, and why. The place is a
path: a starting text, followed by the positions and keys that lead from the whole value to the
part at fault.
-/

namespace EntityCatalog

/-- Why a value does not satisfy a validator. -/
inductive Reason where
  | notOfType (value : Value) (typeName : String)
  | notAllowed (value : Value) (labels : List String)
  | noLength (value : Value)
  | tooLong (length : Nat) (limit : Quantity)
  | rejected (value : Value) (transform : String) (error : ConversionError)
  | notCollection (value : Value)
  | notMapping (value : Value)
  | missingKey (key : Identifier)
deriving DecidableEq

/-- The wording of a reason. -/
def Reason.message : Reason → String
  | .notOfType value typeName => value.literal ++ " is not a valid " ++ typeName
  | .notAllowed value labels =>
      value.literal ++ " not in allowed values " ++ textListLiteral labels
  | .noLength value => value.literal ++ " has no length"
  | .tooLong length limit =>
      "length " ++ toString length ++ " > max length " ++ limit.text
  | .rejected value transform error =>
      "transform " ++ transform ++ " rejected " ++ value.literal ++ " (" ++ error.message ++ ")"
  | .notCollection value => value.literal ++ " is not an ordered collection"
  | .notMapping value => value.literal ++ " is not a mapping"
  | .missingKey key => "missing required key " ++ key.text

/-- A reason at a place. -/
structure Problem where
  path : String
  reason : Reason
deriving DecidableEq

/-- The path, a colon and the wording of the reason. -/
def Problem.text (problem : Problem) : String := problem.path ++ ": " ++ problem.reason.message

/-- The path of the item at a position. -/
def itemPath (path : String) (position : Nat) : String :=
  path ++ "[" ++ toString position ++ "]"

/-- The path of the entry at a key. -/
def entryPath (path : String) (key : Identifier) : String := path ++ "." ++ key.text

end EntityCatalog
