import EntityCatalog.Value.Sameness

/-!
# Levels of log lines

A level is a name and a number. Some numbers go by two names, of which one is shown.
-/

namespace EntityCatalog

/-- The levels of log lines, under all of their names. -/
inductive LogLevel where
  | critical
  | fatal
  | error
  | warn
  | warning
  | info
  | debug
  | notset
deriving DecidableEq, Repr

namespace LogLevel

/-- The name of a level. -/
def text : LogLevel → String
  | .critical => "CRITICAL"
  | .fatal => "FATAL"
  | .error => "ERROR"
  | .warn => "WARN"
  | .warning => "WARNING"
  | .info => "INFO"
  | .debug => "DEBUG"
  | .notset => "NOTSET"

/-- The number of a level; greater ones matter more. -/
def number : LogLevel → Nat
  | .critical => 50
  | .fatal => 50
  | .error => 40
  | .warn => 30
  | .warning => 30
  | .info => 20
  | .debug => 10
  | .notset => 0

/-- All names of levels. -/
def all : List LogLevel := [.critical, .fatal, .error, .warn, .warning, .info, .debug, .notset]

/--
The capital of a letter. Besides the ASCII letters, the dotless i and the long s have capitals
that occur in names of levels.
-/
def capital (character : Char) : Char :=
  if character = 'ı' then 'I' else if character = 'ſ' then 'S' else character.toUpper

/-- The level with a name. -/
def ofName? (name : String) : Option LogLevel := all.find? fun level => level.text == name

/-- The level with a name, in capitals or not. -/
def ofText? (name : String) : Option LogLevel :=
  ofName? (String.ofList (name.toList.map capital))

/-- The levels under the names that are shown for their numbers. -/
def shown : List LogLevel := [.critical, .error, .warning, .info, .debug, .notset]

/-- The level whose number a value is. -/
def ofNumber? (value : Value) : Option LogLevel :=
  shown.find? fun level => value.same (.integer level.number)

/-- Every shown level is found by its number. -/
theorem ofNumber?_number : ∀ level ∈ shown, ofNumber? (.integer level.number) = some level := by
  decide

end LogLevel

end EntityCatalog
