import EntityCatalog.Entity.Report
import EntityCatalog.Value.Literal

/-!
# Checking records

Records are checked field by field. A check gives a value or the list of all issues that it found,
each with the location of the part at fault: the names and positions that lead to it from the
record. Checks of several fields are combined so that the issues of one do not hide those of
another, in the order of the fields.
-/

namespace EntityCatalog

/-- One step from a record to a part of it. -/
inductive LocationStep where
  | name (content : String)
  | position (index : Int)
deriving DecidableEq, Repr

/-- What is wrong with a part of a record. -/
inductive IssueKind where
  | missing
  | textExpected
  /-- Octets that are the encoding of no text. -/
  | textUndecodable
  | textTooShort
  | booleanExpected
  | booleanUnreadable
  | integerExpected
  | integerUnreadable
  | integerTooLarge
  | integerFractional
  | finiteExpected
  | choiceExpected (choices : List String)
  | listExpected
  | mappingExpected
  | recordExpected (title : String)
  | identifierExpected
  | transformExpected
  | unexpected
  /-- The name of an argument is no text. -/
  | nameExpected
  /-- A rule of the record itself is broken. -/
  | ruleBroken (message : String)
deriving DecidableEq, Repr

namespace IssueKind

/-- The code of an issue. -/
def code : IssueKind → String
  | .missing => "missing"
  | .textExpected => "string_type"
  | .textUndecodable => "string_unicode"
  | .textTooShort => "string_too_short"
  | .booleanExpected => "bool_type"
  | .booleanUnreadable => "bool_parsing"
  | .integerExpected => "int_type"
  | .integerUnreadable => "int_parsing"
  | .integerTooLarge => "int_parsing_size"
  | .integerFractional => "int_from_float"
  | .finiteExpected => "finite_number"
  | .choiceExpected _ => "enum"
  | .listExpected => "list_type"
  | .mappingExpected => "dict_type"
  | .recordExpected _ => "model_type"
  | .identifierExpected => "dataclass_type"
  | .transformExpected => "is_instance_of"
  | .unexpected => "extra_forbidden"
  | .nameExpected => "invalid_key"
  | .ruleBroken _ => "value_error"

/-- Quoted choices, with "or" before the last one. -/
def choicesText : List String → String
  | [] => ""
  | [last] => Text.quoted last
  | [previous, last] => Text.quoted previous ++ " or " ++ Text.quoted last
  | first :: rest => Text.quoted first ++ ", " ++ choicesText rest

/-- The wording of an issue. -/
def message : IssueKind → String
  | .missing => "Field required"
  | .textExpected => "Input should be a valid string"
  | .textUndecodable =>
      "Input should be a valid string, unable to parse raw data as a unicode string"
  | .textTooShort => "String should have at least 1 character"
  | .booleanExpected => "Input should be a valid boolean"
  | .booleanUnreadable => "Input should be a valid boolean, unable to interpret input"
  | .integerExpected => "Input should be a valid integer"
  | .integerUnreadable =>
      "Input should be a valid integer, unable to parse string as an integer"
  | .integerTooLarge =>
      "Unable to parse input string as an integer, exceeded maximum size"
  | .integerFractional =>
      "Input should be a valid integer, got a number with a fractional part"
  | .finiteExpected => "Input should be a finite number"
  | .choiceExpected choices => "Input should be " ++ choicesText choices
  | .listExpected => "Input should be a valid list"
  | .mappingExpected => "Input should be a valid dictionary"
  | .recordExpected title => "Input should be a valid dictionary or instance of " ++ title
  | .identifierExpected => "Input should be a dictionary or an instance of Identifier"
  | .transformExpected => "Input should be an instance of Transform"
  | .unexpected => "Extra inputs are not permitted"
  | .nameExpected => "Keys should be strings"
  | .ruleBroken message => "Value error, " ++ Text.withReplacements message

end IssueKind

/-- Something wrong with a record, and where. -/
structure Issue where
  kind : IssueKind
  location : List LocationStep
deriving DecidableEq, Repr

/-- An issue with the whole record. -/
def Issue.whole (kind : IssueKind) : Issue := ⟨kind, []⟩

/-- A record that was refused, by its title, with everything that is wrong with it. -/
structure RecordError where
  title : String
  issues : List Issue
deriving DecidableEq, Repr

/-- The outcome of a check. -/
inductive Checked (α : Type) where
  | valid (value : α)
  | invalid (issues : List Issue)

namespace Checked

variable {α β : Type}

/-- Applies a checked function to a checked argument; the issues of both are kept in order. -/
def apply (function : Checked (α → β)) (argument : Checked α) : Checked β :=
  match function, argument with
  | .valid function, .valid argument => .valid (function argument)
  | .valid _, .invalid issues => .invalid issues
  | .invalid issues, .valid _ => .invalid issues
  | .invalid first, .invalid second => .invalid (first ++ second)

instance : Applicative Checked where
  pure := .valid
  seq function argument := function.apply (argument ())

/-- A check that found one issue with the whole record. -/
def refuse (kind : IssueKind) : Checked α := .invalid [.whole kind]

/-- Places the issues of a check behind a step. -/
def behind (step : LocationStep) : Checked α → Checked α
  | .valid value => .valid value
  | .invalid issues =>
      .invalid (issues.map fun issue => { issue with location := step :: issue.location })

/-- Continues with a value that passed. -/
def andThen (checked : Checked α) (next : α → Checked β) : Checked β :=
  match checked with
  | .valid value => next value
  | .invalid issues => .invalid issues

/-- The outcomes of several checks as one. -/
def sequence : List (Checked α) → Checked (List α)
  | [] => .valid []
  | first :: rest => List.cons <$> first <*> sequence rest

/-- The outcome of the check of a record with a title. -/
def toExcept (title : String) : Checked α → Except RecordError α
  | .valid value => .ok value
  | .invalid issues => .error ⟨title, issues⟩

end Checked

/-- What a record is built from: values, transforms, reports, and collections of these. -/
inductive Datum (τ : Type) where
  /-- A value that is not a collection. -/
  | value (content : Value)
  | list (items : List (Datum τ))
  | tuple (items : List (Datum τ))
  | mapping (entries : List (Value × Datum τ))
  | transform (transform : τ)
  | report (report : ReportedEntity)

namespace Datum

variable {τ : Type}

instance : Inhabited (Datum τ) := ⟨.value .null⟩

/-- A text. -/
def text (content : String) : Datum τ := .value (.text content)

mutual

/-- A value with its collections taken apart. -/
def ofValue : Value → Datum τ
  | .list items => .list (ofItems items)
  | .tuple items => .tuple (ofItems items)
  | .mapping entries => .mapping (ofEntries entries)
  | other => .value other

/-- The data of several values. -/
def ofItems : List Value → List (Datum τ)
  | [] => []
  | item :: rest => ofValue item :: ofItems rest

/-- The data of entries. -/
def ofEntries : List (Value × Value) → List (Value × Datum τ)
  | [] => []
  | (key, content) :: rest => (key, ofValue content) :: ofEntries rest

end

end Datum

end EntityCatalog
