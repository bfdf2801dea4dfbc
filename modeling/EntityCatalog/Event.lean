import EntityCatalog.Entity
import EntityCatalog.Json

/-!
# Events

What the library tells about its work while it goes on. An event is recorded by the component in
which it happens, at one of two levels, with a message; the event that ends a registration also
carries a document with its outcome.
-/

namespace EntityCatalog

/-- How much an event matters. -/
inductive EventLevel where
  | detail
  | notice
deriving DecidableEq, Repr

/-- The component in which an event happens. -/
inductive Component where
  | settings
  | introspection
  | normalization
  | inheritance
  | consistency
  | derivation
  | registry
  | registration
  | timing
deriving DecidableEq, Repr

/-- The word for a level. -/
def EventLevel.text : EventLevel → String
  | .detail => "DEBUG"
  | .notice => "INFO"

/-- The name of the logger of a component. -/
def Component.logger : Component → String
  | .settings => "catalog_engine.config"
  | .introspection => "catalog_engine.introspection"
  | .normalization => "catalog_engine.normalizer"
  | .inheritance => "catalog_engine.propagation"
  | .consistency => "catalog_engine.consistency"
  | .derivation => "catalog_engine.derivation"
  | .registry => "catalog_engine.registry"
  | .registration => "catalog_engine.builder"
  | .timing => "catalog_engine.telemetry.profiling"

/-- Something that happened. -/
inductive Event where
  | settingsLoaded (environment : String)
  | describing (table scope : String)
  | listingLabels (typeName : String)
  | normalized (kind : EntityKind) (entity : Identifier) (table : String) (columns : Nat)
  | inherited (column : Identifier) (transform : String) (enumeration : Identifier)
  | consistent (entities : Nat)
  | underivable (column : Identifier) (typeName : String)
  | merged (entities registered : Nat)
  | notMerged (entities : Nat)
  /-- The end of a registration, with its entities in increasing order of their written forms. -/
  | registered (entities : List String) (declarations : Nat) (excluded : List Identifier)
      (committed : Bool)
  | timed (operation : String)
deriving DecidableEq, Repr

namespace Event

/-- The component in which an event happens. -/
def component : Event → Component
  | .settingsLoaded _ => .settings
  | .describing .. => .introspection
  | .listingLabels _ => .introspection
  | .normalized .. => .normalization
  | .inherited .. => .inheritance
  | .consistent _ => .consistency
  | .underivable .. => .derivation
  | .merged .. => .registry
  | .notMerged _ => .registration
  | .registered .. => .registration
  | .timed _ => .timing

/-- How much an event matters. -/
def level : Event → EventLevel
  | .settingsLoaded _ => .notice
  | .merged .. => .notice
  | .notMerged _ => .notice
  | .registered .. => .notice
  | _ => .detail

/-- The wording of an event. -/
def message : Event → String
  | .settingsLoaded environment => "Loaded settings for environment: " ++ environment
  | .describing table scope => "Introspecting entity " ++ table ++ " in scope " ++ scope
  | .listingLabels typeName => "Introspecting enum values of " ++ typeName
  | .normalized kind entity table columns =>
      "Normalized " ++ kind.text ++ " " ++ entity.text ++ " (" ++ table ++ ") with " ++
        toString columns ++ " column(s)"
  | .inherited column transform enumeration =>
      "Column " ++ column.text ++ " inherits transform " ++ transform ++ " from " ++
        enumeration.text
  | .consistent entities =>
      "Consistency checks passed for " ++ toString entities ++ " entities"
  | .underivable column typeName =>
      "No validator derivable for column " ++ column.text ++ " (type " ++ typeName ++ ")"
  | .merged entities total =>
      "Registry merged " ++ toString entities ++ " entities (" ++ toString total ++
        " registered)"
  | .notMerged entities =>
      "Registry commit disabled; " ++ toString entities ++ " entities not merged"
  | .registered entities declarations excluded _ =>
      "Registered " ++ toString entities.length ++ " entities with " ++
        toString declarations ++ " validator declarations (" ++ toString excluded.length ++
        " columns excluded)"
  | .timed operation => "PROFILE " ++ operation

/-- The document of the outcome of a registration. -/
def outcome? : Event → Option Json
  | .registered entities _ excluded committed =>
      some (.object
        [("entities", .array (entities.map .text)),
          ("excluded_columns", .array (excluded.map fun column => .text column.text)),
          ("committed", .boolean committed)])
  | _ => none

/-- The operation that was timed, if the event is about one. -/
def timedOperation? : Event → Option String
  | .timed operation => some operation
  | _ => none

end Event

end EntityCatalog
