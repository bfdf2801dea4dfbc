import EntityCatalog.Derivation
import EntityCatalog.Event
import EntityCatalog.Json.Reader
import EntityCatalog.Log.Level
import EntityCatalog.Record.Field
import EntityCatalog.Registration
import EntityCatalog.Settings.Environment
import EntityCatalog.Value.Sameness

/-!
# Settings

Settings are read from the variables of an environment, and explicit values take precedence over
them. The case of names does not matter. A variable is named by a common opening and the name of
the setting, and holds a text; lists are written as JSON documents. All settings are checked as the
fields of a record, and names that are no settings are refused.
-/

namespace EntityCatalog

/-- The stage at which an application runs. -/
inductive Stage where
  | development
  | staging
  | production
deriving DecidableEq, Repr

namespace Stage

/-- The word for a stage. -/
def text : Stage → String
  | .development => "dev"
  | .staging => "staging"
  | .production => "prod"

/-- All stages. -/
def all : List Stage := [.development, .staging, .production]

end Stage

/-- The settings of an application. -/
structure Settings where
  stage : Stage
  debug : Bool
  /-- Whether registrations are merged into the registry. -/
  commitRegistry : Bool
  textLengthMargin : Quantity
  boundedTextTypes : List String
  structuredLogging : Bool
  logLevel : LogLevel
deriving DecidableEq

/-- Why settings cannot be loaded. -/
inductive SettingsError where
  /-- A variable of the environment cannot be set. -/
  | unsettable (fault : VariableFault)
  /-- A variable holds no document where one is needed. -/
  | unreadable (field : String)
  /-- A variable holds a document with too many nested containers. -/
  | tooDeep (fault : Json.ReadError)
  /-- A value that cannot be compared with zero is held in the place of the margin. -/
  | incomparable (fault : QuantityFault)
  | invalid (error : RecordError)
deriving DecidableEq, Repr

/-- The wording of a settings error; refused settings are known by their title. -/
def SettingsError.message : SettingsError → String
  | .unsettable fault => fault.message
  | .unreadable field =>
      "error parsing value for field \"" ++ field ++ "\" from source \"EnvSettingsSource\""
  | .tooDeep fault => fault.message
  | .incomparable fault => fault.message
  | .invalid error => error.title

mutual

/-- The value that a document stands for. -/
def Json.toValue : Json → Value
  | .null => .null
  | .boolean truth => .boolean truth
  | .integer number => .integer number
  | .float number => .float number
  | .text content => .text content
  | .array items => .list (Json.toValues items)
  | .object members => .ofEntries (Json.toEntries members)

/-- The values that several documents stand for. -/
def Json.toValues : List Json → List Value
  | [] => []
  | item :: rest => item.toValue :: Json.toValues rest

/-- The entries that the members of an object stand for. -/
def Json.toEntries : List (String × Json) → List (Value × Value)
  | [] => []
  | (name, document) :: rest => (.text name, document.toValue) :: Json.toEntries rest

end

namespace Settings

/-- The opening of the names of variables. -/
def variableOpening : String := "catalog_"

/-- The names of the settings. -/
def fieldNames : List String :=
  ["env", "debug", "commit_registry", "text_length_margin", "bounded_text_types",
    "structured_logging", "log_level"]

/-- The setting that is written as a document. -/
def documentField : String := "bounded_text_types"

/-- A name in lower case; the names of settings are written in ASCII. -/
def lowerName (name : String) : String := String.ofList (name.toList.map Char.toLower)

/-- The text of the variable of a setting; of several spellings the last one counts. -/
def variableText? (environment : List (String × String)) (field : String) : Option String :=
  (environment.reverse.find? fun entry => lowerName entry.1 == variableOpening ++ field).map
    Prod.snd

/-- The explicit value of a setting: under its exact name, or else under another spelling. -/
def explicitValue? (overrides : List (String × Value)) (field : String) : Option Value :=
  (overrides.lookup field).or
    ((overrides.find? fun entry => lowerName entry.1 == field).map Prod.snd)

/-- The explicit values by setting. -/
def explicitValues (overrides : List (String × Value)) : List (String × Value) :=
  fieldNames.filterMap fun field => (explicitValue? overrides field).map fun value => (field, value)

/-- The value that the environment gives a setting; the absent document gives none. -/
def environmentValue? (environment : List (String × String)) (field : String) :
    Except SettingsError (Option Value) :=
  match variableText? environment field with
  | none => .ok none
  | some content =>
      if field = documentField then
        match Json.read content with
        | .error .malformed => .error (.unreadable field)
        | .error fault => .error (.tooDeep fault)
        | .ok .null => .ok none
        | .ok document => .ok (some document.toValue)
      else .ok (some (.text content))

/-- The values that the environment gives, by setting. -/
def environmentValues (environment : List (String × String)) :
    Except SettingsError (List (String × Value)) := do
  let values ← fieldNames.mapM fun field => do
    let value ← environmentValue? environment field
    pure (value.map fun value => (field, value))
  pure (values.filterMap id)

/-- The issue of a negative margin. -/
def negativeMargin : IssueKind := .ruleBroken "text_length_margin must be >= 0"

/-- The margin of a datum; a quantity that cannot be compared with zero is an error of its own. -/
def readMargin (datum : Datum Empty) : Except SettingsError (Checked Quantity) :=
  match datum.checkInteger with
  | .valid margin =>
      match margin.isBelow? 0 with
      | .ok negative => .ok (if negative then .refuse negativeMargin else .valid margin)
      | .error fault => .error (.incomparable fault)
  | .invalid issues => .ok (.invalid issues)

/-- The margin, for a datum that can be compared. -/
def checkMargin (datum : Datum Empty) : Checked Quantity :=
  (readMargin datum).toOption.getD (.valid TextPolicy.standard.margin)

/-- Refuses a margin that cannot be compared. -/
def ensureMarginOrder (entries : List (Value × Datum Empty)) : Except SettingsError Unit :=
  match OrderedMap.findEntry (Value.text "text_length_margin") entries with
  | some datum => (readMargin datum).map fun _ => ()
  | none => .ok ()

/-- A level, by name. -/
def checkLevel (datum : Datum Empty) : Checked LogLevel :=
  datum.checkText.andThen fun name =>
    match LogLevel.ofText? name with
    | some level => .valid level
    | none => .refuse (.ruleBroken ("Unknown log level: " ++ name))

/-- The settings as fields of a record. -/
def checkFields (entries : List (Value × Datum Empty)) : Checked Settings :=
  Settings.mk
    <$> Datum.field entries "env" (Datum.checkChoice Stage.all Stage.text) (some .development)
    <*> Datum.field entries "debug" Datum.checkBoolean (some false)
    <*> Datum.field entries "commit_registry" Datum.checkBoolean (some true)
    <*> Datum.field entries "text_length_margin" checkMargin
      (some TextPolicy.standard.margin)
    <*> Datum.field entries "bounded_text_types" (Datum.checkList Datum.checkText)
      (some TextPolicy.standardNames)
    <*> Datum.field entries "structured_logging" Datum.checkBoolean (some false)
    <*> Datum.field entries "log_level" checkLevel (some .info)

/-- The refusal of names that are no settings in any spelling. -/
def checkNames (overrides : List (String × Value)) : Checked Unit :=
  let unknown := overrides.filter fun entry => !fieldNames.contains (lowerName entry.1)
  if unknown = [] then .valid ()
  else .invalid (unknown.map fun entry => ⟨.unexpected, [Datum.nameStep entry.1]⟩)

/-- All settings, if every name is one; a name with surrogates is the only issue. -/
def check (overrides : List (String × Value)) (entries : List (Value × Datum Empty)) :
    Checked Settings :=
  if overrides.any fun entry => !Text.isEncodable entry.1 then .refuse .textUndecodable
  else (fun settings _ => settings) <$> checkFields entries <*> checkNames overrides

/-- The title under which settings are reported. -/
def title : String := "Settings"

/-- Loads settings from explicit values and, where there are none, from an environment. -/
def load (environment : List (String × String)) (overrides : List (String × Value)) :
    Except SettingsError Settings := do
  (ensureVariables environment).mapError .unsettable
  let given ← environmentValues environment
  let entries := (explicitValues overrides ++ given).map fun entry =>
    (Value.text entry.1, (Datum.ofValue entry.2 : Datum Empty))
  ensureMarginOrder entries
  ((check overrides entries).toExcept title).mapError .invalid

/-- What is told about loaded settings. -/
def loadingEvents (settings : Settings) : List Event :=
  if settings.debug then [.settingsLoaded settings.stage.text] else []

/-- How lengths of texts are derived. -/
def textPolicy (settings : Settings) : TextPolicy :=
  .ofNames settings.textLengthMargin settings.boundedTextTypes

/-- How a registration is carried out, with a choice of its own about merging if there is one. -/
def registrationPolicy (settings : Settings) (commit : Option Bool) : RegistrationPolicy :=
  ⟨commit.getD settings.commitRegistry, settings.textPolicy⟩

/-- The number of the least level whose log lines are shown. -/
def logThreshold (settings : Settings) : Nat :=
  if settings.debug then LogLevel.debug.number else settings.logLevel.number

/-- The pattern of a plain log line. -/
def plainLinePattern : String := "%(asctime)s %(levelname)s %(name)s: %(message)s"

/-- The pattern of a log line that is a document. -/
def documentLinePattern : String := "%(message)s"

/-- The pattern of log lines. -/
def linePattern (settings : Settings) : String :=
  if settings.structuredLogging then documentLinePattern else plainLinePattern

end Settings

end EntityCatalog
