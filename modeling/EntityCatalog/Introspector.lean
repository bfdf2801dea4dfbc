import EntityCatalog.Entity.Declaration
import EntityCatalog.Entity.Report

/-!
# Introspectors

An introspector reports entities and the labels of enumeration types. It is a collaborator of the
library: it may keep a state, answer differently over time, and fail. Besides introspectors that
serve reports which are at hand there are two that wrap another one. The recorded one lists the
calls that reach it. The memoized one passes each question on until it is first answered and gives
that answer ever after; failures are passed on and not remembered.
-/

namespace EntityCatalog

/-- Why an introspector gave no answer. -/
inductive IntrospectionError where
  /-- There is no report of a table. -/
  | undescribed (table scope : String)
  /-- The collaborator failed in a way of its own. -/
  | collaborator (kind message : String)
deriving DecidableEq, Repr

/-- The wording of an introspection error. -/
def IntrospectionError.message : IntrospectionError → String
  | .undescribed table scope =>
      "Unable to describe '" ++ table ++ "' for scope '" ++ scope ++ "'."
  | .collaborator _ message => message

/-- A source of reports with a state. -/
structure Introspector (τ σ : Type) where
  /-- The report of a table, view, composite type or enumeration. -/
  describe : (table scope : String) → EntityOptions τ → σ →
    Except IntrospectionError ReportedEntity × σ
  /-- The labels of an enumeration type in their order. -/
  labels : (typeName : String) → σ → Except IntrospectionError (List String) × σ

namespace Introspector

variable {τ σ : Type}

/-- The labels of a type among reports: its own, or those of the enumeration of that name. -/
def reportedLabels (reports : OrderedMap String ReportedEntity)
    (labelTypes : OrderedMap String (List String)) (typeName : String) : List String :=
  match labelTypes.get? typeName, reports.get? typeName with
  | some labels, _ => labels
  | none, some report => if report.kind = .enumeration then report.labels else []
  | none, none => []

/-- The introspector that serves reports by name, and labels of further enumeration types. -/
def ofReports (reports : OrderedMap String ReportedEntity)
    (labelTypes : OrderedMap String (List String)) : Introspector τ σ where
  describe table scope _ state :=
    match reports.get? table with
    | some report => (.ok report, state)
    | none => (.error (.undescribed table scope), state)
  labels typeName state := (.ok (reportedLabels reports labelTypes typeName), state)

/-- A call of an introspector. -/
inductive Call where
  | describe (table scope : String)
  | labels (typeName : String)
deriving DecidableEq, Repr

/-- The state of an introspector together with the calls that reached it. -/
structure Recorded (σ : Type) where
  calls : List Call
  source : σ

namespace Recorded

/-- Adds a call at the end. -/
def add (recorded : Recorded σ) (call : Call) (source : σ) : Recorded σ :=
  ⟨recorded.calls ++ [call], source⟩

end Recorded

/-- The introspector that lists the calls it passes on. -/
def recorded (introspector : Introspector τ σ) : Introspector τ (Recorded σ) where
  describe table scope options state :=
    let (answer, source) := introspector.describe table scope options state.source
    (answer, state.add (.describe table scope) source)
  labels typeName state :=
    let (answer, source) := introspector.labels typeName state.source
    (answer, state.add (.labels typeName) source)

/-- The answers that are remembered, with the state of the introspector they come from. -/
structure Memo (σ : Type) where
  /-- Reports by scope and table. -/
  reports : OrderedMap (String × String) ReportedEntity
  labels : OrderedMap String (List String)
  source : σ

namespace Memo

/-- The memory without answers. -/
def fresh (source : σ) : Memo σ := ⟨.empty, .empty, source⟩

/-- Remembers the report of a table if there is one. -/
def keepReport (memo : Memo σ) (key : String × String) (source : σ) :
    Except IntrospectionError ReportedEntity → Memo σ
  | .ok report => { memo with reports := memo.reports.insert key report, source }
  | .error _ => { memo with source }

/-- Remembers the labels of a type if there are any to remember. -/
def keepLabels (memo : Memo σ) (typeName : String) (source : σ) :
    Except IntrospectionError (List String) → Memo σ
  | .ok labels => { memo with labels := memo.labels.insert typeName labels, source }
  | .error _ => { memo with source }

end Memo

/-- The introspector that asks another one until a question is answered, and then no more. -/
def memoized (introspector : Introspector τ σ) : Introspector τ (Memo σ) where
  describe table scope options memo :=
    match memo.reports.get? (scope, table) with
    | some report => (.ok report, memo)
    | none =>
        let (answer, source) := introspector.describe table scope options memo.source
        (answer, memo.keepReport (scope, table) source answer)
  labels typeName memo :=
    match memo.labels.get? typeName with
    | some labels => (.ok labels, memo)
    | none =>
        let (answer, source) := introspector.labels typeName memo.source
        (answer, memo.keepLabels typeName source answer)

end Introspector

end EntityCatalog
