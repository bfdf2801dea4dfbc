import EntityCatalog.Catalog
import EntityCatalog.Catalog.Problem
import EntityCatalog.Validator.BaseType

/-!
# Evaluation of validators

`explainWithin` finds the problems of a value, following references and the keys of rows through
the declarations of a catalog. Declarations may refer to each other in a circle, so evaluation goes
only so deep, one level for each validator inside of another one; what lies deeper has no answer,
which is told apart from every failure. `explainStep` is one level by itself, whatever the next one
answers. The depth at which `explain` stops is the same for all catalogs, so that declarations that
are not reached make no difference.
-/

namespace EntityCatalog

/-- Why an evaluation failed. -/
inductive EvaluationError where
  /-- No class of values is known for the name of a base type. -/
  | unknownBaseType (typeName : String)
  /-- A reference names an identifier that is not declared. -/
  | undeclared (target : Identifier)
  /-- A value stands where a validator belongs. -/
  | notAValidator (value : Value)
  /-- A length is compared with a limit that has no order with integers. -/
  | unlimited (fault : QuantityFault)
  /-- A transform failed for a reason that says nothing about the value. -/
  | breakdown (kind message : String)
  /-- The identifier to evaluate is not in the catalog. -/
  | absent (identifier : Identifier)
deriving DecidableEq

/-- The wording of an evaluation error. -/
def EvaluationError.message : EvaluationError → String
  | .unknownBaseType typeName => "No predicate for base type '" ++ typeName ++ "'"
  | .undeclared target => "No declaration registered for '" ++ target.text ++ "'"
  | .notAValidator value => "Not a validator expression: " ++ value.literal
  | .unlimited fault => fault.message
  | .breakdown _ message => message
  | .absent identifier => identifier.literal

/-- Why an evaluation gave no answer. -/
inductive Halt where
  /-- Validators lie too deep inside of each other, or in a circle. -/
  | tooDeep
  | failed (error : EvaluationError)
deriving DecidableEq

/-- An answer of an evaluation, or why there is none. -/
abbrev Evaluation (α : Type) := Except Halt α

/-- The problems of several items in order; the first item without an answer decides. -/
def collectProblems {α : Type} (explain : α → Evaluation (List Problem)) :
    List α → Evaluation (List Problem)
  | [] => .ok []
  | item :: rest => do
      let first ← explain item
      let others ← collectProblems explain rest
      .ok (first ++ others)

/-- The problems of the first item that has any; later items are not looked at. -/
def firstProblems {α : Type} (explain : α → Evaluation (List Problem)) :
    List α → Evaluation (List Problem)
  | [] => .ok []
  | item :: rest => do
      let problems ← explain item
      if problems = [] then firstProblems explain rest else .ok problems

/-- The value of a key in a row: under the identifier itself, or else under its written form. -/
def rowItem? (entries : List (Value × Value)) (key : Identifier) : Option Value :=
  (OrderedMap.findEntry (Value.identifier key) entries).or
    (OrderedMap.findEntry (Value.text key.text) entries)

/-- The problems that there are if a condition does not hold. -/
def problemUnless (holds : Bool) (path : String) (reason : Reason) : List Problem :=
  if holds then [] else [⟨path, reason⟩]

/-- The problem of each required key that a row does not have. -/
def missingKeys (path : String) (entries : List (Value × Value)) (required : List Identifier) :
    List Problem :=
  (required.filter fun key => (rowItem? entries key).isNone).map fun key =>
    ⟨path, .missingKey key⟩

/-- Whether a value is a text among some labels. -/
def isLabel (labels : List String) : Value → Bool
  | .scalar (.text content) => labels.contains content
  | _ => false

/-- The problem of a value that should be a text of at most so many characters. -/
def lengthProblems (path : String) (limit : Quantity) : Value → Evaluation (List Problem)
  | .scalar (.text content) =>
      match (Quantity.whole (Text.length content)).exceeds? limit with
      | .ok exceeded =>
          .ok (problemUnless (!exceeded) path (.tooLong (Text.length content) limit))
      | .error fault => .error (.failed (.unlimited fault))
  | value => .ok [⟨path, .noLength value⟩]

namespace Catalog

variable {τ : Type} [Transform τ]

/-- The problems of the entry of a key, if the row has one and the key is declared. -/
def explainEntry (catalog : Catalog τ)
    (explain : Validator τ → Value → String → Evaluation (List Problem))
    (entries : List (Value × Value)) (path : String) (key : Identifier) :
    Evaluation (List Problem) :=
  match rowItem? entries key, catalog.declared? key with
  | some item, some declaration => explain declaration item (entryPath path key)
  | _, _ => .ok []

/-- One level of an evaluation, by the problems that are found on the next level. -/
def explainStep (catalog : Catalog τ)
    (explain : Validator τ → Value → String → Evaluation (List Problem))
    (validator : Validator τ) (value : Value) (path : String) : Evaluation (List Problem) :=
  match validator with
  | .base typeName =>
      match BaseType.ofName? typeName with
      | none => .error (.failed (.unknownBaseType typeName))
      | some baseType =>
          .ok (problemUnless (baseType.accepts value) path (.notOfType value typeName))
  | .reference target =>
      match catalog.declared? target with
      | none => .error (.failed (.undeclared target))
      | some declaration => explain declaration value path
  | .oneOf labels => .ok (problemUnless (isLabel labels value) path (.notAllowed value labels))
  | .maxLength limit => lengthProblems path limit value
  | .allOf parts => firstProblems (fun part => explain part value path) parts
  | .transformed inner transform =>
      match Transform.toStorage transform value with
      | .ok stored => explain inner stored path
      | .error (.breakdown kind message) => .error (.failed (.breakdown kind message))
      | .error rejection => .ok [⟨path, .rejected value (Transform.name transform) rejection⟩]
  | .nullable inner => if value = .null then .ok [] else explain inner value path
  | .collection inner =>
      match value with
      | .list items =>
          collectProblems (fun item => explain inner item.1 (itemPath path item.2)) items.zipIdx
      | .tuple items =>
          collectProblems (fun item => explain inner item.1 (itemPath path item.2)) items.zipIdx
      | other => .ok [⟨path, .notCollection other⟩]
  | .keys required optional =>
      match value with
      | .mapping entries => do
          let problems ← collectProblems (catalog.explainEntry explain entries path)
            (Validator.allKeys required optional)
          .ok (missingKeys path entries required ++ problems)
      | other => .ok [⟨path, .notMapping other⟩]
  | .foreign foreign => .error (.failed (.notAValidator foreign))

/-- The problems of a value with respect to a validator, found within so many levels. -/
def explainWithin (catalog : Catalog τ) :
    (levels : Nat) → Validator τ → Value → String → Evaluation (List Problem)
  | 0, _, _, _ => .error .tooDeep
  | levels + 1, validator, value, path =>
      catalog.explainStep (explainWithin catalog levels) validator value path

theorem explainWithin_succ (catalog : Catalog τ) (levels : Nat) (validator : Validator τ)
    (value : Value) (path : String) :
    catalog.explainWithin (levels + 1) validator value path =
      catalog.explainStep (catalog.explainWithin levels) validator value path := rfl

/-- The most levels of an evaluation. -/
def greatestDepth : Nat := 985

/-- The problems of a value with respect to a validator. -/
def explain (catalog : Catalog τ) (validator : Validator τ) (value : Value) (path : String) :
    Evaluation (List Problem) :=
  catalog.explainWithin greatestDepth validator value path

/-- Whether a value has no problems. -/
def conforms (catalog : Catalog τ) (validator : Validator τ) (value : Value) :
    Evaluation Bool := do
  let problems ← catalog.explain validator value "value"
  .ok problems.isEmpty

/-- The problems of a value with respect to a listed identifier, under its written form. -/
def explainListed (catalog : Catalog τ) (identifier : Identifier) (value : Value) :
    Evaluation (List Problem) :=
  match catalog.find? identifier with
  | some validator => catalog.explain validator value identifier.text
  | none => .error (.failed (.absent identifier))

/-- Whether a value has no problems with respect to a listed identifier. -/
def isValid (catalog : Catalog τ) (identifier : Identifier) (value : Value) :
    Evaluation Bool := do
  let problems ← catalog.explainListed identifier value
  .ok problems.isEmpty

end Catalog

/-- Collecting asks every item, and is done exactly if every item has an answer. -/
theorem collectProblems_eq_ok_nil_iff {α : Type} {explain : α → Evaluation (List Problem)}
    {items : List α} :
    collectProblems explain items = .ok [] ↔ ∀ item ∈ items, explain item = .ok [] := by
  induction items with
  | nil => simp [collectProblems]
  | cons item rest ih =>
    simp only [collectProblems, List.mem_cons, forall_eq_or_imp, ← ih]
    cases explain item with
    | error halt => simp [bind, Except.bind]
    | ok problems =>
      cases collectProblems explain rest with
      | error halt => simp [bind, Except.bind]
      | ok others => simp [bind, Except.bind]

/-- No item has problems exactly if the search for the first problems finds none. -/
theorem firstProblems_eq_ok_nil_iff {α : Type} {explain : α → Evaluation (List Problem)}
    {items : List α} :
    firstProblems explain items = .ok [] ↔ ∀ item ∈ items, explain item = .ok [] := by
  induction items with
  | nil => simp [firstProblems]
  | cons item rest ih =>
    simp only [firstProblems, List.mem_cons, forall_eq_or_imp, ← ih]
    cases explain item with
    | error halt => simp [bind, Except.bind]
    | ok problems => by_cases none : problems = [] <;> simp [bind, Except.bind, none]

end EntityCatalog
