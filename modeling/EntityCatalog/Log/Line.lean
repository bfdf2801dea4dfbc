import EntityCatalog.Json
import EntityCatalog.Log.Level
import EntityCatalog.Log.Message
import EntityCatalog.Value.Document

/-!
# Log lines as documents

A log line is a document on one line: the moment in universal time, the level, the logger, the
message, and where present the outcome of a registration and the report of a failure.
-/

namespace EntityCatalog

/-- Why an entry makes no line. -/
inductive LineError where
  | template (error : MessageError)
  /-- The level is a value that cannot be looked up. -/
  | level (fault : LookupFault)
  /-- A mapping has a key that a document cannot show. -/
  | key (fault : KeyFault)
  /-- The moment is a value of a type that counts no seconds. -/
  | notSeconds (typeName : String)
  /-- The moment lies outside of the calendar's years. -/
  | yearOutOfRange (year : Int)
  /-- The year of the moment does not fit into a signed word of 32 bits. -/
  | unrepresentableYear
  /-- The seconds of the moment do not fit into a signed word of 64 bits. -/
  | momentOutOfRange
  /-- The moment is no number. -/
  | undefinedMoment
deriving DecidableEq, Repr

/-- The wording of a line error. -/
def LineError.message : LineError → String
  | .template error => error.message
  | .level fault => fault.message
  | .key fault => fault.message
  | .notSeconds typeName =>
      Text.clippedName 200 typeName ++ " object cannot be interpreted as an integer"
  | .yearOutOfRange year => "year " ++ toString year ++ " is out of range"
  | .undefinedMoment => "Invalid value NaN (not a number)"
  | .momentOutOfRange => "timestamp out of range for platform time_t"
  | .unrepresentableYear => "[Errno 75] Value too large for defined data type"

/-- The class of a line error. -/
def LineError.errorClass : LineError → ErrorClass
  | .template error => error.errorClass
  | .level _ | .key _ | .notSeconds _ => .type
  | .yearOutOfRange _ | .undefinedMoment => .value
  | .momentOutOfRange => .range
  | .unrepresentableYear => .system

instance : ErrorCause LineError := ⟨LineError.errorClass, LineError.message⟩

/-- The document of a level that is known by its number or its name: the other one of the two. -/
def knownLevel? (value : Value) : Option Json :=
  match LogLevel.ofNumber? value, value with
  | some level, _ => some (.text level.text)
  | none, .scalar (.text name) =>
      (LogLevel.ofName? name).map fun level => .integer level.number
  | none, _ => none

/-- The text of a level that is not known; the items of a tuple are arguments of their own. -/
def ownLevelText : Value → Except MessageError String
  | .tuple items => filledText "Level %s" items
  | value => filledText "Level %s" [value]

/-- The document of a value that stands for a level; it has to be one that can be looked up. -/
def levelDocument (value : Value) : Except LineError Json := do
  value.ensureKey.mapError .level
  match knownLevel? value with
  | some document => pure document
  | none => ((ownLevelText value).map Json.text).mapError .template

/-- A moment in seconds since the start of 1970. -/
inductive Moment where
  | whole (seconds : Int)
  | fractional (seconds : Float)

namespace Moment

/-- The moment that a value stands for. -/
def ofValue : Value → Except LineError Moment
  | .scalar (.integer seconds) => .ok (.whole seconds)
  | .scalar (.boolean truth) => .ok (.whole (if truth then 1 else 0))
  | .scalar (.float seconds) => .ok (.fractional seconds)
  | value => .error (.notSeconds value.typeName)

/-- The integer nearest to a finite number, the even one of two. -/
def nearestInteger (number : Float) : Int :=
  match Number.parts number with
  | .finite negative significand exponent =>
      let ratio := Number.powerOfTwoRatio significand exponent
      Number.withSign negative (Number.roundHalfEven ratio.1 ratio.2)
  | _ => 0

/-- The microseconds of a number of seconds; the fraction is scaled before it is rounded. -/
def microsecondsOf (seconds : Float) : Int :=
  let whole := if seconds < 0 then seconds.ceil else seconds.floor
  let fraction := (seconds - whole) * Number.ofInteger microsecondsPerSecond
  nearestInteger whole * microsecondsPerSecond + nearestInteger fraction

/-- The microseconds since the start of 1970. -/
def microseconds (moment : Moment) : Except LineError Int := do
  let count ← match moment with
    | .whole seconds => pure (seconds * microsecondsPerSecond)
    | .fractional seconds =>
        match Number.parts seconds with
        | .finite .. => pure (microsecondsOf seconds)
        | .infinite _ => throw .momentOutOfRange
        | .notANumber => throw .undefinedMoment
  if Number.fitsWord 64 (count / microsecondsPerSecond) then pure count else throw .momentOutOfRange

/--
The moment in universal time. The calendar ends after the year 9999; the number of a later year is
told as far as a word of 32 bits goes.
-/
def text (moment : Moment) : Except LineError String := do
  let count ← moment.microseconds
  let universal := DateTime.ofMicroseconds count
  if 1 ≤ universal.date.year ∧ universal.date.year ≤ 9999 then pure (universal.textWith "T")
  else if Number.fitsWord 32 (universal.date.year - 1900) then
    throw (.yearOutOfRange (Number.wrapWord 32 universal.date.year))
  else throw .unrepresentableYear

end Moment

/-- The kinds of failures of the library itself. -/
def ownFailures : List String :=
  ["CatalogError", "SchemaIntrospectionError", "TypeConsistencyError", "NameCollisionError",
    "CyclicTypeReferenceError", "UnknownValidatorError", "DuplicateEntityError"]

/-- The kinds of failures that tell what is wrong with a text, and always tell something. -/
def textFailures : List String := ["SyntaxError", "IndentationError", "TabError"]

/-- The report of a failure without a place: its kind, in full for an own one, and its message. -/
def failureReport (kind message : String) : String :=
  let name := if ownFailures.contains kind then "catalog_engine.errors." ++ kind else kind
  let told :=
    if message = "" ∧ textFailures.contains kind then "<no detail available>" else message
  if told = "" then name ++ "\n" else name ++ ": " ++ told ++ "\n"

/-- What a log line is made from. -/
structure LogEntry where
  /-- The seconds since the start of 1970. -/
  moment : Value
  level : Value
  logger : Value
  template : Value
  arguments : List Value
  registration : Option Value
  failure : Option String

namespace LogEntry

/-- A member of a document that is left out if there is nothing to show. -/
def optionalMember (name : String) : Option Json → List (String × Json)
  | some document => [(name, document)]
  | none => []

/-- The outcome of a registration that an entry carries; the absent value stands for none. -/
def registrationDocument (entry : LogEntry) : Except LineError (Option Json) :=
  match entry.registration with
  | none | some .null => .ok none
  | some value => (value.document.map some).mapError .key

/-- The line of an entry. -/
def line (entry : LogEntry) : Except LineError String := do
  let level ← levelDocument entry.level
  let moment ← Moment.ofValue entry.moment
  let timestamp ← moment.text
  let message ← (messageText entry.template entry.arguments).mapError .template
  let logger ← entry.logger.document.mapError .key
  let registration ← entry.registrationDocument
  let document : Json := .object
    ([("timestamp", .text timestamp), ("level", level),
        ("logger", logger), ("message", .text message)] ++
      optionalMember "registration" registration ++
      optionalMember "exc_info" (entry.failure.map .text))
  pure document.write

end LogEntry

end EntityCatalog
